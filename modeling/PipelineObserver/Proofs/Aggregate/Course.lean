import PipelineObserver.Aggregate.InterleavedLogs
import PipelineObserver.Dialogue.Transcript
/-!
The courses of interleaved logs: batches are sent, and turns are taken, in any order. What a turn
can do is listed in `follows_turn_pulled`, while a stream is asked, and in `advance_advances`.
-/
namespace PipelineObserver.InterleavedLogs

/-- What is seen of interleaved logs: what they are sent, and what they ask and yield. -/
inductive Event where
  | sent (batch : ChildBatch)
  | hungUp
  | happened (h : Happening (Except Failure (Option (String × String))))

/-- No line is left, and none will come. -/
def Event.ending : Event := .happened (.yielded (.ok none))

def asked (t : List Exchange) : List Event := t.map fun e => .happened (.exchanged e)

def seen (t : List Exchange) : Advance → List Event
  | .turned (.yield a _) => asked t ++ [.happened (.yielded a)]
  | _ => asked t

def stateAfter : Advance → InterleavedLogs
  | .turned (.again s) | .turned (.yield _ s) | .waiting s => s

/-- Either a batch is sent, or the discovery is over, or a turn is taken. -/
inductive Step (s : InterleavedLogs) : List Event → InterleavedLogs → Prop
  | send (batch : ChildBatch) (here : s.senderGone = false) : Step s [.sent batch] (s.deliver batch)
  | hangUp (here : s.senderGone = false) : Step s [.hungUp] s.hangUp
  | turn {t : List Exchange} {o : Advance} (h : s.turn.Follows t o) :
      Step s (seen t o) (stateAfter o)

/-- Any number of steps, in any order. -/
inductive Course (origin : InterleavedLogs) : List Event → InterleavedLogs → Prop
  | start : Course origin [] origin
  | step {events more : List Event} {s s' : InterleavedLogs} (before : Course origin events s)
      (here : Step s more s') : Course origin (events ++ more) s'

def batches (events : List Event) : List ChildBatch :=
  events.filterMap fun
    | .sent batch => some batch
    | _ => none

/-- The children that some batches name. -/
def children (batches : List ChildBatch) : List ChildReference :=
  batches.flatMap fun
    | .ok found => found
    | .error _ => []

/-- What is asked and yielded, but for the end. -/
def told (events : List Event) : List (Happening (Except Failure (Option (String × String)))) :=
  events.filterMap fun
    | .happened (.yielded (.ok none)) => none
    | .happened h => some h
    | _ => none

/-- How something that happens to the stream of a task is to be seen from outside. -/
def shown (task : String) :
    Happening (Except Failure (Option String)) →
      List (Happening (Except Failure (Option (String × String))))
  | .exchanged e => [.exchanged e]
  | .yielded (.ok (some line)) => [.yielded (.ok (some (task, line)))]
  | .yielded (.ok none) => []
  | .yielded (.error e) => [.yielded (.error e)]

/-- What happened to all streams, each time with the number of the stream. -/
abbrev Trace := List (Nat × Happening (Except Failure (Option String)))

/-- What happened to one stream. -/
def Trace.history (trace : Trace) (i : Nat) : List (Happening (Except Failure (Option String))) :=
  (trace.filter (·.1 = i)).map (·.2)

/-- The name of the task of a stream. -/
def taskOf (started : List ChildReference) (i : Nat) : String :=
  (started[i]?.map ChildReference.taskName).getD ""

/-- All that is to be seen of the streams of some children. -/
def Trace.shown (started : List ChildReference) (trace : Trace) :
    List (Happening (Except Failure (Option (String × String)))) :=
  trace.flatMap fun x => InterleavedLogs.shown (taskOf started x.1) x.2

/-! ### One turn -/

variable {s s' : InterleavedLogs} {t : List Exchange}

/-- What follows from a turn of the stream that is being asked. -/
def afterPull (s : InterleavedLogs) (stream : TaskStream) : LogLines.Outcome → Outcome
  | .again l => .again { s with pulled := some { stream with lines := l } }
  | .yield (.ok (some line)) l =>
    .yield (.ok (some (stream.task, line)))
      { s with pulled := none, active := s.active ++ [{ stream with lines := l }] }
  | .yield (.ok none) _ => .again { s with pulled := none }
  | .yield (.error e) _ => .yield (.error e) { s with pulled := none }

theorem pull_eq (stream : TaskStream) :
    s.pull stream = stream.lines.turn.bind fun x => .done (s.afterPull stream x) := by
  unfold pull
  rw [Dialogue.bind_eq]
  congr 1
  funext x
  rcases x with l | ⟨e | _ | line, l⟩ <;> rfl

theorem follows_turn_pulled {stream : TaskStream} {o : Advance} (h : s.pulled = some stream) :
    s.turn.Follows t o ↔
      ∃ x, stream.lines.turn.Follows t x ∧ o = .turned (s.afterPull stream x) := by
  simp only [turn, h, Dialogue.bind_eq, pull_eq, Dialogue.bind_assoc, Dialogue.bind_done,
    Dialogue.pure_eq, Dialogue.follows_bind_iff, Dialogue.follows_done_iff]
  constructor
  · rintro ⟨u, v, x, rfl, hx, rfl, rfl⟩
    exact ⟨x, by rwa [List.append_nil], rfl⟩
  · rintro ⟨x, hx, rfl⟩
    exact ⟨t, [], x, (List.append_nil t).symm, hx, rfl, rfl⟩

theorem follows_turn_none {o : Advance} (h : s.pulled = none) :
    s.turn.Follows t o ↔ t = [] ∧ o = s.advance := by
  simp only [turn, h, Dialogue.pure_eq, Dialogue.follows_done_iff]

/-- The batches are received that were sent, if the pass is over. -/
def received (s : InterleavedLogs) : Option Failure × InterleavedLogs :=
  if s.rotation = 0 then s.receiveAll else (none, s)

/-- What may be done between two streams. -/
inductive Advances (s : InterleavedLogs) : Advance → Prop
  | fails {e : Failure} {s' : InterleavedLogs} (h : s.received = (some e, s')) :
      Advances s (.turned (.yield (.error e) s'))
  | pulls {s' : InterleavedLogs} {stream : TaskStream} {rest : List TaskStream}
      (h : s.received = (none, s')) (active : s'.active = stream :: rest) :
      Advances s (.turned (.again
        { s' with
          active := rest
          rotation := (if s'.rotation = 0 then s'.active.length else s'.rotation) - 1
          pulled := some stream }))
  | waits {s' : InterleavedLogs} (h : s.received = (none, s')) (active : s'.active = [])
      (discovering : s'.discovering = true) : Advances s (.waiting s')
  | ends {s' : InterleavedLogs} (h : s.received = (none, s')) (active : s'.active = [])
      (settled : s'.discovering = false) : Advances s (.turned (.yield (.ok none) s'))

theorem advance_advances (s : InterleavedLogs) : Advances s s.advance := by
  rcases hr : s.received with ⟨_ | e, s'⟩
  · have hreceived := hr
    unfold received at hreceived
    cases hactive : s'.active with
    | cons stream rest =>
      have hadvance : s.advance = .turned (.again
          { s' with
            active := rest
            rotation := (if s'.rotation = 0 then s'.active.length else s'.rotation) - 1
            pulled := some stream }) := by
        simp only [advance, hreceived, hactive]
      rw [hadvance]
      exact .pulls hr hactive
    | nil =>
      have hadvance : s.advance =
          if s'.discovering then .waiting s' else .turned (.yield (.ok none) s') := by
        simp only [advance, hreceived, hactive]
      rw [hadvance]
      cases hd : s'.discovering with
      | true => exact .waits hr hactive hd
      | false => exact .ends hr hactive hd
  · have hadvance : s.advance = .turned (.yield (.error e) s') := by
      unfold received at hr
      simp only [advance, hr]
    rw [hadvance]
    exact .fails hr

theorem receive_keeps (s : InterleavedLogs) (waiting : List ChildBatch) :
    (s.receive waiting).2.pulled = s.pulled ∧ (s.receive waiting).2.rotation = s.rotation := by
  induction waiting generalizing s with
  | nil => exact ⟨rfl, rfl⟩
  | cons batch waiting ih =>
    cases batch with
    | error e => exact ⟨rfl, rfl⟩
    | ok found => exact ih (s.start found)

theorem received_keeps (s : InterleavedLogs) :
    s.received.2.pulled = s.pulled ∧ s.received.2.rotation = s.rotation := by
  unfold received receiveAll
  split
  · split
    · exact receive_keeps s s.inbox
    · exact ⟨rfl, rfl⟩
  · exact ⟨rfl, rfl⟩

/-- Unless a failure is met, every batch is received. -/
theorem receive_all {waiting : List ChildBatch} (h : s.receive waiting = (none, s')) :
    s'.inbox = [] ∧ s'.discovering = (s.discovering && !s.senderGone) := by
  induction waiting generalizing s with
  | nil =>
    cases h
    exact ⟨rfl, rfl⟩
  | cons batch waiting ih =>
    cases batch with
    | error e => cases h
    | ok found => exact ih (s := s.start found) h

end PipelineObserver.InterleavedLogs
