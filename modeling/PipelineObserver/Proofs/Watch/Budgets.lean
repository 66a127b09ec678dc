import PipelineObserver.Bounds
import PipelineObserver.Proofs.Runs
import PipelineObserver.Proofs.Watch.Course
/-!
The budgets of a watch: how many connections it tries, how many rejections it takes, and how it
pauses in between. What the counters of a channel say is compared with what happened, in every state
that a watch can come to.
-/
namespace PipelineObserver

/-- The opening of a stream was asked for. -/
def Exchange.isConnection : Exchange → Bool
  | ⟨.openStream _, _⟩ => true
  | _ => false

/-- The opening of a stream failed for a lasting reason. -/
def Exchange.isRejection : Exchange → Bool
  | ⟨.openStream _, .error e⟩ => !e.isTransient
  | _ => false

/-- Connections and pauses, which make up the rhythm of a watch. -/
def Question.isBeat : Question → Bool
  | .openStream _ | .sleep _ => true
  | _ => false

namespace WatchChannel

def connections (happened : Tracker.Course) : Nat :=
  (exchanges happened).countP Exchange.isConnection

def rejections (happened : Tracker.Course) : Nat :=
  (exchanges happened).countP Exchange.isRejection

/-- The connections and pauses, in their order. -/
def rhythm (happened : Tracker.Course) : List Question :=
  ((exchanges happened).map (·.question)).filter Question.isBeat

/-- What becomes of an open stream: it is lost when it is closed or breaks, and when a failure is
told. -/
def heldAfter (stream : Option StreamId) :
    Happening (Except Failure (Option WatchItem)) → Option StreamId
  | .exchanged ⟨.openStream _, .ok id⟩ => some id
  | .exchanged ⟨.readLine _, .ok none⟩ => none
  | .exchanged ⟨.readLine _, .error _⟩ => none
  | .yielded (.error _) => none
  | _ => stream

/-- The stream that is open after all that happened, if there is one. -/
def held (happened : Tracker.Course) : Option StreamId := happened.foldl heldAfter none

/-- The pause that is due before the next connection. -/
def due (ch : WatchChannel) : List Question :=
  match ch.state with
  | .connecting => []
  | _ => [.sleep ch.settings.retryDelay]

variable {ch : WatchChannel} {t : List Exchange} {o : Outcome}

theorem connections_append (happened more : Tracker.Course) :
    connections (happened ++ more) = connections happened + connections more := by
  simp only [connections, exchanges_append, List.countP_append]

theorem rejections_append (happened more : Tracker.Course) :
    rejections (happened ++ more) = rejections happened + rejections more := by
  simp only [rejections, exchanges_append, List.countP_append]

theorem rhythm_append (happened more : Tracker.Course) :
    rhythm (happened ++ more) = rhythm happened ++ rhythm more := by
  simp only [rhythm, exchanges_append, List.map_append, List.filter_append]

theorem held_append (happened more : Tracker.Course) :
    held (happened ++ more) = more.foldl heldAfter (held happened) := List.foldl_append

theorem disconnected_state (ch : WatchChannel) :
    ch.disconnected.state = .backoff ∧ ch.attempts < ch.settings.maxAttempts ∨
      ch.disconnected.state = .exhausted ∧ ch.settings.maxAttempts ≤ ch.attempts := by
  unfold disconnected
  by_cases h : ch.settings.maxAttempts ≤ ch.attempts
  · exact .inr ⟨if_pos h, h⟩
  · exact .inl ⟨if_neg h, Nat.not_le.mp h⟩

theorem due_disconnected (ch : WatchChannel) :
    ch.disconnected.due = [.sleep ch.settings.retryDelay] := by
  rcases disconnected_state ch with ⟨h, -⟩ | ⟨h, -⟩ <;> simp only [due, h] <;> rfl

/-- A stream is held exactly while the channel streams. -/
def HoldsStream (ch : WatchChannel) : Prop := ch.stream.isSome = true ↔ ch.state = .streaming

theorem HoldsStream.eq_none (h : ch.HoldsStream) (hstate : ch.state ≠ .streaming) :
    ch.stream = none := by
  rw [← Option.not_isSome_iff_eq_none]
  exact fun hsome => hstate (h.mp hsome)

theorem disconnected_ne_streaming (ch : WatchChannel) : ch.disconnected.state ≠ .streaming := by
  rcases disconnected_state ch with ⟨h, -⟩ | ⟨h, -⟩ <;> simp [h]

theorem holdsStream_disconnected (ch : WatchChannel) : ch.disconnected.HoldsStream :=
  iff_of_false (by simp [disconnected]) (disconnected_ne_streaming ch)

/-! ### What a step adds -/

theorem Step.target (hs : Step ch t o) : o.state.target = ch.target := by
  cases hs <;> rfl

theorem Step.attempts (hs : Step ch t o) :
    o.state.attempts = ch.attempts + connections (o.happenings t) := by
  cases hs <;> rfl

theorem rejections_refused (r : Request) (e : Failure) (o : Outcome) :
    rejections (o.happenings [⟨.openStream r, .error e⟩]) = if e.isTransient then 0 else 1 := by
  have hcount : rejections (o.happenings [⟨.openStream r, .error e⟩]) =
      [⟨.openStream r, .error e⟩].countP Exchange.isRejection := by
    rw [rejections, exchanges_happenings]
  rw [hcount, List.countP_singleton]
  cases he : e.isTransient <;> simp [Exchange.isRejection, he]

theorem Step.badResponses (hs : Step ch t o) :
    o.state.badResponses = ch.badResponses + rejections (o.happenings t) := by
  cases hs with
  | lost e h transient =>
    rw [rejections_refused, if_pos transient]
    rfl
  | rejected e h hard below =>
    rw [rejections_refused, if_neg (by simp [hard])]
    rfl
  | givenUp e h hard limit =>
    rw [rejections_refused, if_neg (by simp [hard])]
    rfl
  | _ => rfl

/-- The stream is let go with the connection on every way out of it, and on no other step. -/
theorem Step.holdsStream (hs : Step ch t o) (h : ch.HoldsStream) : o.state.HoldsStream := by
  cases hs with
  | connected id hstate => exact iff_of_true rfl rfl
  | lost | rejected | streamless | closed | broken => exact holdsStream_disconnected _
  | lookUpFailed | unreadable => exact iff_of_false (by simp [fail]) (by simp [fail])
  | givenUp e hstate hard limit =>
    have hnone : ch.stream = none := h.eq_none (by simp [hstate])
    exact iff_of_false (by simp [rejectedOnce, tried, hnone]) (by simp)
  | rested hstate =>
    have hnone : ch.stream = none := h.eq_none (by simp [hstate])
    exact iff_of_false (by simp [hnone]) (by simp)
  | event | noise | ended => exact h

theorem Step.held (hs : Step ch t o) (h : ch.HoldsStream) :
    (o.happenings t).foldl heldAfter ch.stream = o.state.stream := by
  cases hs with
  | lost _ hstate _ | rejected _ hstate _ _ => exact h.eq_none (by simp [hstate])
  | givenUp e hstate hard limit =>
    exact (h.eq_none (by simp [hstate])).symm
  | streamless hstate absent => exact absent
  | _ => rfl

/-- A number of connections, each followed by a pause. -/
def beats (ch : WatchChannel) (n : Nat) : List Question :=
  (List.replicate n [.openStream ch.request, .sleep ch.settings.retryDelay]).flatten

theorem beats_add (ch : WatchChannel) (m n : Nat) : ch.beats (m + n) = ch.beats m ++ ch.beats n := by
  simp only [beats, ← List.replicate_append_replicate, List.flatten_append]

/-- A step makes up for the pause that was due, or adds a connection and the pause after it. -/
theorem Step.beats (hs : Step ch t o) :
    rhythm (o.happenings t) ++ o.state.due = ch.due ++ ch.beats (connections (o.happenings t)) := by
  cases hs with
  | lost e h transient =>
    -- The pause after this connection is due as soon as it is lost.
    change [Question.openStream ch.request] ++ ch.tried.disconnected.due = _
    rw [due_disconnected]
    simp only [due, h]
    rfl
  | rejected e h hard below =>
    change [Question.openStream ch.request] ++ ch.tried.rejectedOnce.disconnected.due = _
    rw [due_disconnected]
    simp only [due, h]
    rfl
  | streamless h =>
    change ch.disconnected.due = _
    rw [due_disconnected]
    simp only [due, h]
    rfl
  | closed _ h | broken _ _ h _ =>
    change ch.disconnected.due = _
    rw [due_disconnected]
    simp only [due, h.1]
    rfl
  | lookUpFailed _ _ _ _ h _ _ | unreadable _ _ h _ =>
    simp only [due, h.1]
    rfl
  | connected _ h | givenUp _ h _ _ | rested h =>
    simp only [due, h]
    rfl
  | event | noise | ended => exact (List.append_nil ch.due).symm

/-- The connections tried so far are not too many, and another one may follow where one will. -/
def HasRoom (ch : WatchChannel) : Prop :=
  ch.attempts ≤ max 1 ch.settings.maxAttempts ∧
    (ch.state = .connecting ∨ ch.state = .backoff → ch.attempts < max 1 ch.settings.maxAttempts)

theorem hasRoom_disconnected (ch : WatchChannel)
    (h : ch.attempts ≤ max 1 ch.settings.maxAttempts) : ch.disconnected.HasRoom := by
  refine ⟨h, fun hstate => ?_⟩
  rcases disconnected_state ch with ⟨-, hless⟩ | ⟨hexhausted, -⟩
  · change ch.attempts < max 1 ch.settings.maxAttempts
    omega
  · simp [hexhausted] at hstate

theorem Step.hasRoom (hs : Step ch t o) (h : ch.HasRoom) : o.state.HasRoom := by
  obtain ⟨hwithin, hroom⟩ := h
  have htried (hstate : ch.state = .connecting) :
      ch.tried.attempts ≤ max 1 ch.tried.settings.maxAttempts := hroom (.inl hstate)
  cases hs with
  | connected _ hstate | givenUp _ hstate _ _ => exact ⟨htried hstate, by simp⟩
  | lost e hstate transient => exact hasRoom_disconnected ch.tried (htried hstate)
  | rejected e hstate hard below =>
    exact hasRoom_disconnected ch.tried.rejectedOnce (htried hstate)
  | streamless | closed | broken => exact hasRoom_disconnected ch hwithin
  | rested hstate => exact ⟨hwithin, fun _ => hroom (.inr hstate)⟩
  | lookUpFailed | unreadable => exact ⟨hwithin, by simp [fail]⟩
  | _ => exact ⟨hwithin, hroom⟩

/-- The rejections are too few to give up, unless the channel has failed. -/
def IsPatient (ch : WatchChannel) : Prop :=
  ch.state ≠ .failed → ch.badResponses < max 1 ch.settings.maxBadResponses

theorem Step.isPatient (hs : Step ch t o) (h : ch.IsPatient) : o.state.IsPatient := by
  cases hs with
  | rejected e hstate hard below =>
    intro _
    change ch.badResponses + 1 < max 1 ch.settings.maxBadResponses
    omega
  | givenUp | lookUpFailed | unreadable => exact fun hfailed => absurd rfl hfailed
  | connected _ hstate | lost _ hstate _ | streamless hstate | rested hstate =>
    exact fun _ => h (by simp [hstate])
  | closed _ hstreams | broken _ _ hstreams _ => exact fun _ => h (by simp [hstreams.1])
  | event | noise | ended => exact h

/-! ### Every state that a watch can come to -/

/-- What is true of a channel after all that happened to it. -/
structure Kept (t : Tracker) (happened : Tracker.Course) (ch : WatchChannel) : Prop where
  target : ch.target = t
  holdsStream : ch.HoldsStream
  held : held happened = ch.stream
  attempts : connections happened = ch.attempts
  badResponses : rejections happened = ch.badResponses
  beats : rhythm happened ++ ch.due = t.watch.beats ch.attempts
  hasRoom : ch.HasRoom
  isPatient : ch.IsPatient

theorem kept_watch (t : Tracker) : Kept t [] t.watch where
  target := rfl
  holdsStream := iff_of_false Bool.false_ne_true nofun
  held := rfl
  attempts := rfl
  badResponses := rfl
  beats := rfl
  hasRoom := ⟨Nat.zero_le _, fun _ => Nat.lt_of_lt_of_le Nat.one_pos (Nat.le_max_left ..)⟩
  isPatient := fun _ => Nat.lt_of_lt_of_le Nat.one_pos (Nat.le_max_left ..)

theorem Kept.step {tracker : Tracker} {happened : Tracker.Course} (h : Kept tracker happened ch)
    (hs : Step ch t o) : Kept tracker (happened ++ o.happenings t) o.state where
  target := hs.target.trans h.target
  holdsStream := hs.holdsStream h.holdsStream
  held := by rw [held_append, h.held, hs.held h.holdsStream]
  attempts := by rw [connections_append, h.attempts, hs.attempts]
  badResponses := by rw [rejections_append, h.badResponses, hs.badResponses]
  beats := by
    have hsame : ch.beats (connections (o.happenings t)) =
        tracker.watch.beats (connections (o.happenings t)) := by
      rw [← h.target]
      rfl
    calc rhythm (happened ++ o.happenings t) ++ o.state.due
        = rhythm happened ++ (rhythm (o.happenings t) ++ o.state.due) := by
          rw [rhythm_append, List.append_assoc]
      _ = rhythm happened ++ ch.due ++ ch.beats (connections (o.happenings t)) := by
          rw [hs.beats, List.append_assoc]
      _ = tracker.watch.beats ch.attempts ++
            tracker.watch.beats (connections (o.happenings t)) := by
          rw [h.beats, hsame]
      _ = tracker.watch.beats o.state.attempts := by
          rw [← beats_add, hs.attempts]
  hasRoom := hs.hasRoom h.hasRoom
  isPatient := hs.isPatient h.isPatient

theorem kept_of_run {tracker : Tracker} {happened : Tracker.Course}
    (run : Run turn tracker.watch happened ch) : Kept tracker happened ch := by
  have hkept := run.keeps (P := Kept tracker)
    (fun _ _ _ _ h ht => h.step (step_of_follows ht)) (kept_watch tracker)
  rwa [List.nil_append] at hkept

/-- A rejection is a step of its own, which tells it at the limit. -/
theorem Step.of_rejection {u v : List Exchange} {r : Request} {e : Failure}
    (hs : Step ch (u ++ ⟨.openStream r, .error e⟩ :: v) o) (hard : e.isTransient = false) :
    u = [] ∧ v = [] ∧ (ch.settings.maxBadResponses ≤ ch.badResponses + 1 →
      ∃ ch', o = .yield (.error e) ch' ∧ ch'.state = .failed) := by
  have hsingle {x y : Exchange} (h : u ++ x :: v = [y]) : u = [] ∧ v = [] ∧ x = y := by
    cases u with
    | nil =>
      obtain ⟨hxy, hv⟩ := List.cons.inj h
      exact ⟨rfl, hv, hxy⟩
    | cons a u => simp at h
  generalize ht : u ++ ⟨.openStream r, .error e⟩ :: v = t at hs
  -- A step that asks for a connection asks for nothing else.
  have hmem : ⟨.openStream r, .error e⟩ ∈ t := by
    rw [← ht]
    simp
  cases hs with
  | connected id h =>
    obtain ⟨-, -, heq⟩ := hsingle ht
    cases heq
  | lost e' h transient =>
    obtain ⟨-, -, heq⟩ := hsingle ht
    cases heq
    simp [hard] at transient
  | rejected e' h hard' below =>
    obtain ⟨hu, hv, -⟩ := hsingle ht
    exact ⟨hu, hv, fun limit => absurd below (Nat.not_lt.mpr limit)⟩
  | givenUp e' h hard' limit =>
    obtain ⟨hu, hv, heq⟩ := hsingle ht
    cases heq
    exact ⟨hu, hv, fun _ => ⟨_, rfl, rfl⟩⟩
  | _ => simp [Tracker.lookedUp] at hmem

theorem silent_of_over (h : ch.state = .exhausted ∨ ch.state = .failed) : Silent turn ch := by
  apply Silent.of_turns (P := fun ch => ch.state = .exhausted ∨ ch.state = .failed) _ h
  intro ch h
  exact ⟨ch, turn_over h, h⟩

theorem disconnected_ne_failed (ch : WatchChannel) : ch.disconnected.state ≠ .failed := by
  rcases disconnected_state ch with ⟨h, -⟩ | ⟨h, -⟩ <;> simp [h]

theorem Step.failed_iff (hs : Step ch t o) :
    o.state.state = .failed ↔ ch.state = .failed ∨ ∃ e, .error e ∈ o.yields := by
  cases hs with
  | lost _ h _ | rejected _ h _ _ | streamless h => simp [h, Turn.yields, disconnected_ne_failed]
  | closed _ h | broken _ _ h _ => simp [h.1, Turn.yields, disconnected_ne_failed]
  | connected _ h | rested h => simp [h, Turn.yields]
  | event _ _ _ _ h _ _ | noise _ _ h _ => simp [h.1, Turn.yields]
  | givenUp | lookUpFailed | unreadable | ended => simp [Turn.yields, fail]

theorem failed_iff_told {tracker : Tracker} {told : Tracker.Course}
    (run : Run turn tracker.watch told ch) :
    ch.state = .failed ↔ ∃ e, .error e ∈ yields told := by
  have hstart : tracker.watch.state = .failed ↔ ∃ e, .error e ∈ yields ([] : Tracker.Course) := by
    simp [Tracker.watch, yields]
  have hrun := run.keeps (P := fun told ch => ch.state = .failed ↔ ∃ e, .error e ∈ yields told)
    ?_ hstart
  · rwa [List.nil_append] at hrun
  · intro before ch t o h ht
    rw [(step_of_follows ht).failed_iff, h, yields_append, yields_happenings, ← exists_or]
    simp only [List.mem_append]

theorem told_of_rejection {tracker : Tracker} {before after : Tracker.Course} {r : Request}
    {e : Failure}
    (run : Run turn tracker.watch (before ++ .exchanged ⟨.openStream r, .error e⟩ :: after) ch)
    (hard : e.isTransient = false)
    (limit : tracker.config.watch.maxBadResponses ≤ rejections before + 1) :
    ∃ calls, after = .yielded (.error e) :: Tracker.endCourse calls := by
  obtain ⟨first, m, u, v, o, rest, rfl, rfl, hfirst, hturn, hrest⟩ := run.turn_of_asked
  obtain ⟨rfl, rfl, hgivenUp⟩ := (step_of_follows hturn).of_rejection hard
  have hkept := kept_of_run hfirst
  have hlimit : m.settings.maxBadResponses ≤ m.badResponses + 1 := by
    rw [settings, hkept.target, ← hkept.badResponses]
    rwa [List.map_nil, List.append_nil] at limit
  obtain ⟨m', rfl, hfailed⟩ := hgivenUp hlimit
  obtain ⟨calls, rfl⟩ := (silent_of_over (.inr hfailed)).2 rest ch hrest
  exact ⟨calls, rfl⟩

/-- The counters of a watch say what happened, and its budgets are kept, in whatever state it is. A
stream is held exactly while it streams, the one that was opened last. Connections alternate with
pauses, the rejection that uses up the budget is told at once, and nothing follows an end. -/
theorem budgets_kept (t : Tracker) (happened : Tracker.Course) (ch : WatchChannel)
    (run : Run turn t.watch happened ch) :
    (ch.stream.isSome = true ↔ ch.state = .streaming) ∧
      ch.stream = held happened ∧
      connections happened = ch.attempts ∧
      ch.attempts ≤ max 1 t.config.watch.maxAttempts ∧
      (t.config.watch.maxAttempts ≤ Bounds.greatestUnsigned32 →
        ch.attempts ≤ Bounds.greatestUnsigned32) ∧
      rhythm happened <+: (List.replicate ch.attempts
        [.openStream t.watch.request, .sleep t.config.watch.retryDelay]).flatten ∧
      rejections happened = ch.badResponses ∧
      (ch.state ≠ .failed → ch.badResponses < max 1 t.config.watch.maxBadResponses) ∧
      (∀ before r e after, happened = before ++ .exchanged ⟨.openStream r, .error e⟩ :: after →
        e.isTransient = false → t.config.watch.maxBadResponses ≤ rejections before + 1 →
          ∃ calls, after = .yielded (.error e) :: Tracker.endCourse calls) ∧
      (ch.state = .exhausted ∨ ch.state = .failed → Silent turn ch) := by
  have hkept := kept_of_run run
  have hsettings : ch.settings = t.config.watch := by rw [settings, hkept.target]
  have hwithin := hkept.hasRoom.1
  rw [hsettings] at hwithin
  have hpatient := hkept.isPatient
  rw [IsPatient, hsettings] at hpatient
  refine ⟨hkept.holdsStream, hkept.held.symm, hkept.attempts, hwithin, ?_, ⟨ch.due, hkept.beats⟩,
    hkept.badResponses, hpatient, ?_, silent_of_over⟩
  · intro hmax
    have hone : 1 ≤ Bounds.greatestUnsigned32 := by decide
    omega
  · rintro before r e after rfl hard limit
    exact told_of_rejection run hard limit

/-! Both budgets run out at once, on the second connection. -/

def lastChance : Tracker where
  config := {
    apiUrl := "https://api.example.test"
    «namespace» := "ns"
    watch := { maxAttempts := 2, maxBadResponses := 1 } }
  kind := .pipelineRun
  name := "run"

def forbidden : Failure := .apiError 403 "forbidden"

def firstChance : Tracker.Course := [.exchanged ⟨.openStream lastChance.watch.request, .ok 0⟩]

def closedAfter : Tracker.Course :=
  [.exchanged ⟨.readLine 0, .ok none⟩,
    .exchanged ⟨.sleep lastChance.config.watch.retryDelay, ()⟩]

def forbiddenCourse : Tracker.Course :=
  [.exchanged ⟨.openStream lastChance.watch.request, .error forbidden⟩, .yielded (.error forbidden)]

def firstStream : WatchChannel :=
  { lastChance.watch.tried with stream := some 0, state := .streaming }

theorem run_firstChance : Run turn lastChance.watch firstChance firstStream := by
  have hstep : Step lastChance.watch [⟨.openStream lastChance.watch.request, .ok 0⟩]
      (.again firstStream) := .connected 0 rfl
  exact .again hstep.follows (.refl _)

theorem run_forbidden : Run turn lastChance.watch (firstChance ++ closedAfter ++ forbiddenCourse)
    { lastChance.watch.tried.tried.rejectedOnce with state := .failed } := by
  have hclosed : Step firstStream [⟨.readLine 0, .ok none⟩] (.again firstStream.disconnected) :=
    .closed 0 ⟨rfl, rfl⟩
  have hrested : Step firstStream.disconnected
      [⟨.sleep lastChance.config.watch.retryDelay, ()⟩] (.again lastChance.watch.tried) :=
    .rested rfl
  have hrejected : Step lastChance.watch.tried
      [⟨.openStream lastChance.watch.request, .error forbidden⟩]
      (.yield (.error forbidden)
        { lastChance.watch.tried.tried.rejectedOnce with state := .failed }) :=
    .givenUp forbidden rfl rfl (Nat.le_refl 1)
  have hlater : Run turn firstStream (closedAfter ++ forbiddenCourse)
      { lastChance.watch.tried.tried.rejectedOnce with state := .failed } :=
    .again hclosed.follows (.again hrested.follows (.yield hrejected.follows (.refl _)))
  rw [List.append_assoc]
  exact run_firstChance.trans hlater

/-- The stream is held while it is open. The rejection is told, though no connection is left
either, and nothing follows. -/
theorem budgets_kept_last_chance :
    Run turn lastChance.watch firstChance firstStream ∧ firstStream.stream.isSome = true ∧
      firstStream.stream = held firstChance ∧
      ∃ ch, Run turn lastChance.watch (firstChance ++ closedAfter ++ forbiddenCourse) ch ∧
        ch.stream.isSome = false ∧ ch.attempts = 2 ∧ ch.badResponses = 1 ∧ ch.state = .failed ∧
        Silent turn ch ∧ ∃ calls, [Happening.yielded (.error forbidden)] =
          .yielded (.error forbidden) :: Tracker.endCourse calls := by
  obtain ⟨hwhile, hheld, -⟩ := budgets_kept lastChance _ _ run_firstChance
  obtain ⟨hafter, -, -, -, -, -, -, -, hrejection, hsilent⟩ :=
    budgets_kept lastChance _ _ run_forbidden
  refine ⟨run_firstChance, hwhile.mpr rfl, hheld, _, run_forbidden, ?_, rfl, rfl, rfl,
    hsilent (.inr rfl), hrejection _ _ forbidden _ rfl rfl (Nat.le_refl 1)⟩
  rw [← Bool.not_eq_true, hafter]
  exact nofun

end WatchChannel

end PipelineObserver
