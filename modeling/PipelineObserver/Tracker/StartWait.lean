import PipelineObserver.Watch.Channel
/-!
Waiting until a resource is running or has reached an end state. Whenever the watch says that the
resource is absent, or that nothing is known, it is looked up once more before that is believed.
-/
namespace PipelineObserver

structure StartWait where
  channel : WatchChannel
  deriving DecidableEq

namespace StartWait

/-- A wait yields the snapshot of the started resource, or nothing if the resource does not exist or
the watch is exhausted. -/
abbrev Outcome := Turn StartWait (Except Failure (Option Snapshot))

/-- The wait goes on until a snapshot shows that the resource has started. -/
def examine (w : StartWait) (s : Snapshot) : Outcome :=
  if s.hasStarted then .yield (.ok (some s)) w else .again w

/-- What follows from looking the resource up once more. -/
def rechecked (w : StartWait) : Except Failure (Option Snapshot) → Outcome
  | .ok (some s) => w.examine s
  | .ok none => .yield (.ok none) w
  | .error e => if e.isTransient then .again w else .yield (.error e) w

def turn (w : StartWait) : Dialogue Outcome := do
  match ← w.channel.turn with
  | .again ch => return .again ⟨ch⟩
  | .yield (.error e) ch => return .yield (.error e) ⟨ch⟩
  | .yield (.ok none) ch => return .yield (.ok none) ⟨ch⟩
  | .yield (.ok (some (.snapshot s))) ch => return examine ⟨ch⟩ s
  | .yield (.ok (some .absent)) ch | .yield (.ok (some .unknown)) ch =>
    return rechecked ⟨ch⟩ (← ch.target.snapshot.run)

end StartWait

/-- Waits, with a watch of its own, until the resource has started. -/
def Tracker.waitForStart (t : Tracker) : StartWait := ⟨t.watch⟩

def StartWait.restart (w : StartWait) : StartWait := w.channel.target.waitForStart

end PipelineObserver
