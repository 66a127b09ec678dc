import PipelineObserver.Proofs.Logs.Steps
import PipelineObserver.Proofs.Tracker.Start
/-!
The gates before logs. Each is a wait for the start of a resource, which begins anew after a failure
and is over as soon as a snapshot shows the start: `run_at_gate` takes a run apart there.
-/
namespace PipelineObserver

/-- The questions of a wait for the start of a resource. -/
inductive Tracker.Asks (t : Tracker) : Question → Prop
  | watch : Asks t (.openStream t.watch.request)
  | event (id : StreamId) : Asks t (.readLine id)
  | pause : Asks t (.sleep t.config.watch.retryDelay)
  | lookUp : Asks t (.send (.get (t.config.resourcePath t.kind t.name)))

theorem WatchChannel.Step.asks {ch : WatchChannel} {t : List Exchange} {o : WatchChannel.Outcome}
    (hs : Step ch t o) : ∀ x ∈ t, ch.target.Asks x.question := by
  have hwatch (answer : Except Failure StreamId) :
      ∀ x ∈ [(⟨.openStream ch.request, answer⟩ : Exchange)], ch.target.Asks x.question := by
    intro x hx
    rw [List.mem_singleton.mp hx]
    exact .watch
  have hread (id : StreamId) (answer : Except Failure (Option String)) :
      ∀ x ∈ [(⟨.readLine id, answer⟩ : Exchange)], ch.target.Asks x.question := by
    intro x hx
    rw [List.mem_singleton.mp hx]
    exact .event id
  have hevent (id : StreamId) (line : String) (answer : Except Failure Response) :
      ∀ x ∈ [(⟨.readLine id, .ok (some line)⟩ : Exchange), ch.target.lookedUp answer],
        ch.target.Asks x.question := by
    intro x hx
    rcases List.mem_cons.mp hx with rfl | hx
    · exact .event id
    · rw [List.mem_singleton.mp hx]
      exact .lookUp
  cases hs with
  | connected | lost | rejected | givenUp => exact hwatch _
  | event | lookUpFailed => exact hevent _ _ _
  | noise | closed | broken | unreadable => exact hread _ _
  | rested h =>
    intro x hx
    rw [List.mem_singleton.mp hx]
    exact .pause
  | streamless | ended => exact nofun

namespace StartWait

variable {tracker : Tracker} {told : Tracker.Course} {asked t : List Exchange} {w : StartWait}
  {o : Outcome}

theorem Pending.asks (h : Pending tracker told asked w) (hs : Step w t o) :
    ∀ x ∈ t, tracker.Asks x.question := by
  have hturn {t : List Exchange} {c : WatchChannel.Outcome} (hc : w.channel.turn.Follows t c) :
      ∀ x ∈ t, tracker.Asks x.question :=
    h.target ▸ (WatchChannel.step_of_follows hc).asks
  cases hs with
  | silent hc | failed hc | exhausted hc | shown hc => exact hturn hc
  | @doubted t item ch answer doubtful hc =>
    have htarget : ch.target = tracker := h.target_turn hc
    intro x hx
    rcases List.mem_append.mp hx with hx | hx
    · exact hturn hc x hx
    · rw [List.mem_singleton.mp hx, htarget]
      exact .lookUp

/-- What was asked in a wait, which may have begun anew in the course of it. -/
structure Waiting (tracker : Tracker) (asked : List Exchange) (w : StartWait) : Prop where
  run : ∃ earlier latest, asked = earlier ++ latest ∧
    Run turn tracker.waitForStart (latest.map .exchanged) w
  own : ∀ x ∈ asked, tracker.Asks x.question

theorem waiting_start (earlier : List Exchange) (own : ∀ x ∈ earlier, tracker.Asks x.question) :
    Waiting tracker earlier tracker.waitForStart :=
  ⟨⟨earlier, [], (List.append_nil earlier).symm, .refl _⟩, own⟩

theorem Waiting.own_turn (h : Waiting tracker asked w) (ht : w.turn.Follows t o) :
    ∀ x ∈ asked ++ t, tracker.Asks x.question := by
  obtain ⟨earlier, latest, -, hrun⟩ := h.run
  obtain ⟨told, hpending⟩ := pending_of_run hrun
  intro x hx
  rcases List.mem_append.mp hx with hx | hx
  · exact h.own x hx
  · exact hpending.asks (step_of_follows ht) x hx

theorem Waiting.again {w' : StartWait} (h : Waiting tracker asked w)
    (ht : w.turn.Follows t (.again w')) : Waiting tracker (asked ++ t) w' := by
  obtain ⟨earlier, latest, rfl, hrun⟩ := h.run
  refine ⟨⟨earlier, latest ++ t, List.append_assoc .., ?_⟩, h.own_turn ht⟩
  rw [List.map_append]
  exact hrun.then_turn ht

theorem Waiting.call {w' : StartWait} {result : Except Failure (Option Snapshot)}
    (h : Waiting tracker asked w) (ht : w.turn.Follows t (.yield result w')) :
    ∃ earlier latest, asked ++ t = earlier ++ latest ∧
      Call turn tracker.waitForStart latest result w' := by
  obtain ⟨earlier, latest, rfl, hrun⟩ := h.run
  exact ⟨earlier, latest ++ t, List.append_assoc .., latest, t, w, rfl, hrun, ht⟩

theorem Waiting.target_turn {w' : StartWait} {result : Except Failure (Option Snapshot)}
    (h : Waiting tracker asked w) (ht : w.turn.Follows t (.yield result w')) :
    w'.channel.target = tracker := by
  obtain ⟨earlier, latest, -, hcall⟩ := h.call ht
  obtain ⟨told, hrun, -, -⟩ := verdict_of_call hcall
  exact (WatchChannel.kept_of_run hrun).target

/-- A wait is over with a snapshot that shows a start, fetched by the last question. -/
structure Passed (tracker : Tracker) (asked : List Exchange) (s : Snapshot) : Prop where
  last : ∃ before answer, asked = before ++ [tracker.lookedUp answer] ∧
    answer.bind (Response.snapshot? tracker.kind) = .ok (some s)
  started : Started s
  own : ∀ x ∈ asked, tracker.Asks x.question

theorem Waiting.passed {w' : StartWait} {s : Snapshot} (h : Waiting tracker asked w)
    (ht : w.turn.Follows t (.yield (.ok (some s)) w')) : Passed tracker (asked ++ t) s := by
  obtain ⟨earlier, latest, hasked, hcall⟩ := h.call ht
  obtain ⟨told, -, -, hverdict⟩ := verdict_of_call hcall
  cases hverdict with
  | @started before answer _ last shown hs first =>
    refine ⟨⟨earlier ++ before, answer, ?_, shown⟩, hs, h.own_turn ht⟩
    rw [hasked, last, List.append_assoc]

/-- A wait gives up at once if the network fails at its watch and the resource is not found. -/
theorem follows_gone (tracker : Tracker) (detail : String) {r : Response}
    (missing : r.status = 404) :
    ∃ w, tracker.waitForStart.turn.Follows
      [⟨.openStream tracker.watch.request, .error (.connection detail)⟩, tracker.lookedUp (.ok r)]
      (.yield (.ok none) w) := by
  let ch := tracker.watch.tried.disconnected
  have hlost : WatchChannel.Step tracker.watch
      [⟨.openStream tracker.watch.request, .error (.connection detail)⟩]
      (.yield (.ok (some .unknown)) ch) := .lost _ rfl rfl
  have hmissing : (Except.ok r : Except Failure Response).bind (Response.snapshot? ch.target.kind) =
      .ok none := r.snapshot?_eq_none_iff.mpr missing
  have hrecheck := Step.doubted (w := tracker.waitForStart) (.ok r) (.inr rfl) hlost.follows
  rw [hmissing] at hrecheck
  exact ⟨_, hrecheck.follows⟩

end StartWait

/-! ### Gates -/

/-- A gate before logs: the lines in the course of the wait there, and those with which they go on
after it, unless they end. -/
structure Gateway where
  tracker : Tracker
  shut : StartWait → LogLines
  next : Snapshot → StartWait → Option LogLines

namespace Gateway

variable (g : Gateway)

/-- What follows at a gate from a turn of the wait there. -/
def after (w : StartWait) : StartWait.Outcome → LogLines.Outcome
  | .again w' => .again (g.shut w')
  | .yield (.error e) w' => .yield (.error e) (g.shut w'.restart)
  | .yield (.ok none) _ => .yield (.ok none) (g.shut w).ended
  | .yield (.ok (some s)) w' =>
    match g.next s w' with
    | none => .yield (.ok none) (g.shut w).ended
    | some l => .again l

/-- The lines take the turns of the wait as long as the gate is shut. -/
def Guards : Prop := ∀ w, (g.shut w).turn = w.turn.bind fun o => .done (g.after w o)

/-- The lines at a gate, with what happened before: they wait, or were refused and are over. -/
inductive Holds : LogLines.Course → LogLines → Prop
  | waiting {happened : LogLines.Course} {w : StartWait}
      (h : StartWait.Waiting g.tracker (exchanges happened) w)
      (quiet : LogLines.toldLines happened = []) : Holds happened (g.shut w)
  | refused {happened : LogLines.Course} {w : StartWait}
      (own : ∀ x ∈ exchanges happened, g.tracker.Asks x.question)
      (quiet : LogLines.toldLines happened = []) : Holds happened (g.shut w).ended

/-- The lines have passed a gate, and gone on from there. -/
structure Left (happened : LogLines.Course) (l : LogLines) (gating rest : LogLines.Course)
    (s : Snapshot) (next : LogLines) : Prop where
  split : happened = gating ++ rest
  passed : StartWait.Passed g.tracker (exchanges gating) s
  quiet : LogLines.toldLines gating = []
  goesOn : ∃ w, w.channel.target = g.tracker ∧ g.next s w = some next
  run : Run LogLines.turn next rest l

variable {g} {happened : LogLines.Course} {l : LogLines} {t : List Exchange} {o : LogLines.Outcome}

theorem quiet_turn (quiet : LogLines.toldLines happened = [])
    (h : ∀ line, .ok (some line) ∉ o.yields) :
    LogLines.toldLines (happened ++ o.happenings t) = [] := by
  rw [LogLines.toldLines_append, quiet, List.nil_append, LogLines.toldLines, yields_happenings]
  rcases o with l | ⟨e | _ | line, l⟩
  · rfl
  · rfl
  · rfl
  · exact absurd (List.mem_singleton_self _) (h line)

theorem Holds.step (h : g.Holds happened l) (guards : g.Guards) (ht : l.turn.Follows t o) :
    g.Holds (happened ++ o.happenings t) o.state ∨
      ∃ s next,
        g.Left (happened ++ o.happenings t) o.state (happened ++ o.happenings t) [] s next := by
  cases h with
  | @refused w own quiet =>
    rw [LogLines.turn_finished rfl, Dialogue.follows_done_iff] at ht
    obtain ⟨rfl, rfl⟩ := ht
    refine .inl (.refused ?_ (quiet_turn quiet (by simp)))
    rwa [exchanges_append, exchanges_happenings, List.append_nil]
  | @waiting w hwait quiet =>
    -- The turn is one of the wait, and what follows from it is said by the gate.
    rw [guards w] at ht
    obtain ⟨u, v, x, rfl, hx, hrest⟩ := Dialogue.follows_bind_iff.mp ht
    obtain ⟨rfl, rfl⟩ := Dialogue.follows_done_iff.mp hrest
    rw [List.append_nil]
    have hasked : exchanges (happened ++ (g.after w x).happenings u) = exchanges happened ++ u := by
      rw [exchanges_append, exchanges_happenings]
    have hrefused : g.Holds (happened ++
        (Turn.yield (.ok none) (g.shut w).ended : LogLines.Outcome).happenings u)
        (g.shut w).ended := by
      refine .refused ?_ (quiet_turn quiet (by simp))
      rw [exchanges_append, exchanges_happenings]
      exact hwait.own_turn hx
    rcases x with w' | ⟨e | _ | s, w'⟩
    · exact .inl (.waiting (hasked ▸ hwait.again hx) (quiet_turn quiet (by simp [after])))
    · -- After a failure the wait begins anew, with the same resource.
      have hrestart : w'.restart = g.tracker.waitForStart := by
        rw [StartWait.restart, hwait.target_turn hx]
      refine .inl ?_
      change g.Holds _ (g.shut w'.restart)
      rw [hrestart]
      exact .waiting (hasked ▸ StartWait.waiting_start _ (hwait.own_turn hx))
        (quiet_turn quiet (by simp [after]))
    · exact .inl hrefused
    · cases hnext : g.next s w' with
      | none =>
        have hafter : g.after w (.yield (.ok (some s)) w') =
            .yield (.ok none) (g.shut w).ended := by
          rw [after, hnext]
        rw [hafter]
        exact .inl hrefused
      | some next =>
        have hafter : g.after w (.yield (.ok (some s)) w') = .again next := by
          rw [after, hnext]
        rw [hafter] at hasked ⊢
        exact .inr ⟨s, next, (List.append_nil _).symm, hasked ▸ hwait.passed hx,
          quiet_turn quiet (by simp), ⟨w', hwait.target_turn hx, hnext⟩, .refl _⟩

/-- A run from a gate stays there, or passes it and goes on. -/
theorem run_at_gate (guards : g.Guards)
    (run : Run LogLines.turn (g.shut g.tracker.waitForStart) happened l) :
    g.Holds happened l ∨ ∃ gating rest s next, g.Left happened l gating rest s next := by
  have hstart : g.Holds [] (g.shut g.tracker.waitForStart) :=
    .waiting (StartWait.waiting_start [] (by simp)) rfl
  have hrun := run.keeps (P := fun happened l => g.Holds happened l ∨
    ∃ gating rest s next, g.Left happened l gating rest s next) ?_ (.inl hstart)
  · rwa [List.nil_append] at hrun
  · rintro before l t o (h | ⟨gating, rest, s, next, h⟩) ht
    · rcases h.step guards ht with h' | ⟨s, next, h'⟩
      · exact .inl h'
      · exact .inr ⟨_, [], s, next, h'⟩
    · refine .inr ⟨gating, rest ++ o.happenings t, s, next, ?_, h.passed, h.quiet, h.goesOn,
        h.run.then_turn ht⟩
      rw [h.split, List.append_assoc]

/-- What happens at a gate when the first event of the watch is answered with a start. -/
def passing (g : Gateway) (id : StreamId) (notice : String) (answer : Response) : LogLines.Course :=
  [.exchanged ⟨.openStream g.tracker.watch.request, .ok id⟩,
    .exchanged ⟨.readLine id, .ok (some notice)⟩, .exchanged (g.tracker.lookedUp (.ok answer))]

/-- A turn of the wait is one at the gate. -/
theorem follows_turn (guards : g.Guards) {w : StartWait} {t : List Exchange}
    {o : StartWait.Outcome} (h : w.turn.Follows t o) :
    (g.shut w).turn.Follows t (g.after w o) := by
  rw [guards w, ← List.append_nil t]
  exact h.bind (.done _)

theorem run_passing (guards : g.Guards) (id : StreamId) {notice : String} {answer : Response}
    {s : Snapshot} {next : LogLines} (announced : WatchChannel.announces notice = true)
    (shown : answer.snapshot? g.tracker.kind = .ok (some s)) (started : StartWait.Started s)
    (goesOn : ∀ w, w.channel.target = g.tracker → g.next s w = some next) :
    Run LogLines.turn (g.shut g.tracker.waitForStart) (g.passing id notice answer) next := by
  have hconnected := follows_turn guards (StartWait.follows_connecting g.tracker id)
  have hevent := follows_turn guards (StartWait.follows_starting id announced shown started)
  rw [after, goesOn (StartWait.watching g.tracker id) rfl] at hevent
  exact .again hconnected (.again hevent (.refl next))

end Gateway

end PipelineObserver
