import PipelineObserver.Watch.Channel
/-!
Discovery of the task runs of a pipeline run, each by its name and only once.
-/
namespace PipelineObserver

structure ChildWatch where
  channel : WatchChannel
  -- The names found so far.
  seen : List String := []
  finished : Bool := false
  deriving DecidableEq

namespace ChildWatch

/-- The children whose names come for the first time, and all names seen then. -/
def newcomers (seen : List String) : List ChildReference → List ChildReference × List String
  | [] => ([], seen)
  | c :: rest =>
    if seen.contains c.name then newcomers seen rest
    else
      let (found, seen) := newcomers (c.name :: seen) rest
      (c :: found, seen)

/-- A discovery yields the newly found children of one snapshot, never an empty list of them, and
nothing once it has ended. -/
abbrev Outcome := Turn ChildWatch (Except Failure (Option (List ChildReference)))

/-- What follows from a snapshot of the pipeline run. One in an end state is the last. -/
def examine (w : ChildWatch) (s : Snapshot) : Outcome :=
  let (found, seen) := newcomers w.seen s.taskRuns
  let w := { w with seen := seen, finished := s.isTerminal }
  if found.isEmpty then .again w else .yield (.ok (some found)) w

def turn (w : ChildWatch) : Dialogue Outcome :=
  if w.finished then return .yield (.ok none) w
  else do
    match ← w.channel.turn with
    | .again ch => return .again { w with channel := ch }
    | .yield (.error e) ch => return .yield (.error e) { w with channel := ch }
    | .yield (.ok none) ch | .yield (.ok (some .absent)) ch =>
      return .yield (.ok none) { w with channel := ch, finished := true }
    | .yield (.ok (some .unknown)) ch => return .again { w with channel := ch }
    | .yield (.ok (some (.snapshot s))) ch => return { w with channel := ch }.examine s

end ChildWatch

end PipelineObserver
