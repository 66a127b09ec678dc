import PipelineObserver.Proofs.Logs.Gates
/-!
How the lines of logs end. A call that tells no line is the last one that asks for anything, except
where a gate fails: `over_unless_gate_fails`.
-/
namespace PipelineObserver

theorem Dialogue.exists_follows {α : Type} (d : Dialogue α) : ∃ t a, d.Follows t a := by
  have hanswer (q : Question) : Nonempty q.Answer := by
    cases q with
    | send r => exact ⟨.error .unreadableBody⟩
    | openStream r => exact ⟨.ok 0⟩
    | readLine id => exact ⟨.ok none⟩
    | sleep duration => exact ⟨()⟩
    | now => exact ⟨0⟩
  induction d with
  | done a => exact ⟨[], a, .done a⟩
  | ask q next ih =>
    obtain ⟨answer⟩ := hanswer q
    obtain ⟨t, a, h⟩ := ih answer
    exact ⟨_, a, .ask q next answer t a h⟩

theorem not_silent_of_ask {σ β : Type} {turn : σ → Dialogue (Turn σ (Except Failure (Option β)))}
    {s : σ} {q : Question} {next : q.Answer → Dialogue (Turn σ (Except Failure (Option β)))}
    (h : turn s = .ask q next) : ¬ Silent turn s := by
  rintro ⟨-, hsilent⟩
  obtain ⟨t, o, ht⟩ := (turn s).exists_follows
  obtain ⟨calls, hcalls⟩ := hsilent _ _ (.step ht (.refl _))
  -- The first thing that happens is the question.
  rw [h] at ht
  obtain ⟨answer, rest, rfl, -⟩ := Dialogue.follows_ask_iff.mp ht
  have hmem : (.exchanged ⟨q, answer⟩ : Happening (Except Failure (Option β))) ∈
      List.replicate calls (.yielded (.ok none)) := by
    rw [← hcalls]
    cases o <;> simp [Turn.happenings]
  simp at hmem

/-- A wait for a start begins with a request for a watch. -/
theorem Tracker.waitForStart_turn (tracker : Tracker) :
    ∃ next, tracker.waitForStart.turn = .ask (.openStream tracker.watch.request) next := by
  have hchannel : tracker.watch.turn = _ := WatchChannel.turn_connecting rfl
  rw [StartWait.turn, Dialogue.bind_eq]
  change ∃ next, tracker.watch.turn.bind _ = _
  rw [hchannel]
  exact ⟨_, rfl⟩

namespace LogLines

variable {l l' : LogLines} {t : List Exchange} {result : Except Failure (Option String)}

/-- The lines are at a gate at which nothing has been asked yet. -/
def AtGateOf (l : LogLines) (tracker : Tracker) : Prop :=
  l.finished = false ∧
    (l.gate = .taskRun tracker.waitForStart ∨ l.gate = .pod tracker.waitForStart)

theorem turn_at_gate {tracker : Tracker} (h : AtGateOf l tracker) :
    ∃ next, l.turn = .ask (.openStream tracker.watch.request) next := by
  obtain ⟨more, gate⟩ := h
  obtain ⟨next, hnext⟩ := tracker.waitForStart_turn
  rcases gate with gate | gate
  · rw [turn_taskRun more gate, hnext]
    exact ⟨_, rfl⟩
  · rw [turn_pod more gate, hnext]
    exact ⟨_, rfl⟩

theorem interrupted_yields {c : LogCursor} {e : Failure} {time : Nat}
    (h : l.interrupted c e time = .yield result l') : l' = l.ended := by
  unfold interrupted at h
  split at h
  · cases h
  · cases h
    rfl

/-- The lines are over, or a wait at a gate begins anew after a failure. -/
theorem Step.over_or_anew (hs : Step l t (.yield result l'))
    (told : ∀ line, result ≠ .ok (some line)) :
    l'.finished = true ∧ (result = .ok none ∨ ∃ pod, l'.gate = .opened pod) ∨
      ∃ e tracker, result = .error e ∧ AtGateOf l' tracker := by
  generalize ho : (Turn.yield result l' : Outcome) = o at hs
  cases hs with
  | ended h =>
    cases ho
    exact .inl ⟨h, .inl rfl⟩
  | @taskRun w t o more gate here =>
    rcases o with w' | ⟨e | _ | s, w'⟩
    · cases ho
    · cases ho
      exact .inr ⟨e, w'.channel.target, rfl, more, .inl rfl⟩
    · cases ho
      exact .inl ⟨rfl, .inl rfl⟩
    · unfold afterTaskRun at ho
      cases hpod : s.podReference with
      | none =>
        simp only [hpod] at ho
        cases ho
        exact .inl ⟨rfl, .inl rfl⟩
      | some pod =>
        simp only [hpod] at ho
        cases ho
  | @pod w t o more gate here =>
    rcases o with w' | ⟨e | _ | s, w'⟩
    · cases ho
    · cases ho
      exact .inr ⟨e, w'.channel.target, rfl, more, .inr rfl⟩
    · cases ho
      exact .inl ⟨rfl, .inl rfl⟩
    · cases ho
  | @reads pod t o more gate here =>
    -- Whatever ends the reading leaves the gate open.
    have hended (h : l' = l.ended) : l'.finished = true ∧ ∃ pod, l'.gate = .opened pod := by
      rw [h]
      exact ⟨rfl, pod, gate⟩
    cases here with
    | taken | opened | closed => cases ho
    | drained =>
      cases ho
      exact .inl ⟨rfl, .inl rfl⟩
    | line text =>
      cases ho
      exact absurd rfl (told text)
    | refused | broken =>
      obtain ⟨hover, hgate⟩ := hended (interrupted_yields ho.symm)
      exact .inl ⟨hover, .inr hgate⟩

/-- After a call that told no line nothing is asked any more, and every later call tells the end,
unless the call told of a failure at a gate. In that case the next call begins with a watch of the
same resource, as if nothing had happened. -/
theorem over_unless_gate_fails {asked : List Exchange} (call : Call turn l asked result l')
    (told : ∀ line, result ≠ .ok (some line)) :
    (Silent turn l' ↔ result = .ok none ∨ ∃ pod, l'.gate = .opened pod) ∧
      (¬ Silent turn l' → ∃ tracker, AtGateOf l' tracker ∧
        ∃ next, l'.turn = .ask (.openStream tracker.watch.request) next) := by
  obtain ⟨before, last, m, -, -, ht⟩ := call
  rcases (step_of_follows ht).over_or_anew told with ⟨hover, hwhy⟩ | ⟨e, tracker, rfl, hanew⟩
  · have hsilent := silent_of_finished hover
    exact ⟨⟨fun _ => hwhy, fun _ => hsilent⟩, fun h => absurd hsilent h⟩
  · obtain ⟨next, hnext⟩ := turn_at_gate hanew
    have hloud := not_silent_of_ask hnext
    refine ⟨⟨fun h => absurd h hloud, ?_⟩, fun _ => ⟨tracker, hanew, next, hnext⟩⟩
    rintro (h | ⟨pod, hpod⟩)
    · cases h
    · rcases hanew.2 with hgate | hgate
      · cases hgate.symm.trans hpod
      · cases hgate.symm.trans hpod

/-! The first request for a watch of a task run is forbidden, and one refusal is too many. -/

def guarded : TaskRunLogs where
  config := {
    apiUrl := "https://api.example.test"
    «namespace» := "ns"
    watch := { maxBadResponses := 1 } }
  taskRun := "build"

def forbidden : Failure := .apiError 403 "forbidden"

theorem guarded_call : Call turn guarded.stream
    [⟨.openStream guarded.tracker.watch.request, .error forbidden⟩] (.error forbidden)
    guarded.stream := by
  have hgivenUp : WatchChannel.Step guarded.tracker.watch _ _ :=
    .givenUp forbidden rfl rfl (Nat.le_refl 1)
  have hfailed : StartWait.Step guarded.tracker.waitForStart _ _ := .failed hgivenUp.follows
  have hstep : Step guarded.stream _ (.yield (.error forbidden) guarded.stream) :=
    .taskRun rfl rfl hfailed.follows
  exact ⟨[], _, _, rfl, .refl _, hstep.follows⟩

/-- The refusal leaves the lines as they were at the beginning. -/
theorem gate_failure_not_last : ¬ ∀ (logs : TaskRunLogs) (asked : List Exchange)
    (result : Except Failure (Option String)) (l : LogLines), Call turn logs.stream asked result l →
      (∀ line, result ≠ .ok (some line)) → Silent turn l := by
  intro h
  have hsilent := h guarded _ _ _ guarded_call (fun _ => nofun)
  obtain ⟨next, hnext⟩ := turn_at_gate (l := guarded.stream) ⟨rfl, .inl rfl⟩
  exact not_silent_of_ask hnext hsilent

/-- The watch cannot be opened, and then the task run is not found. -/
theorem guarded_gone : Call turn guarded.stream
    [⟨.openStream guarded.tracker.watch.request, .error (.connection "refused")⟩,
      guarded.tracker.lookedUp (.ok ⟨404, ""⟩)] (.ok none) guarded.stream.ended := by
  obtain ⟨w, hgone⟩ := StartWait.follows_gone guarded.tracker "refused" (r := ⟨404, ""⟩) rfl
  have hstep : Step guarded.stream _ (.yield (.ok none) guarded.stream.ended) :=
    .taskRun rfl rfl hgone
  exact ⟨[], _, _, rfl, .refl _, hstep.follows⟩

theorem over_unless_gate_fails_guarded :
    Call turn guarded.stream
        [⟨.openStream guarded.tracker.watch.request, .error forbidden⟩] (.error forbidden)
        guarded.stream ∧
      ¬ Silent turn guarded.stream ∧
      Silent turn guarded.stream.ended := by
  obtain ⟨hforbidden, -⟩ := over_unless_gate_fails guarded_call (fun _ => nofun)
  obtain ⟨hgone, -⟩ := over_unless_gate_fails guarded_gone (fun _ => nofun)
  refine ⟨guarded_call, fun h => ?_, hgone.mpr (.inl rfl)⟩
  rcases hforbidden.mp h with h | ⟨pod, h⟩
  · cases h
  · cases h

end LogLines

end PipelineObserver
