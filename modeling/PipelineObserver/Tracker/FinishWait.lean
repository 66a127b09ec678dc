import PipelineObserver.Bounds
import PipelineObserver.Tracker.Basic
/-!
Waiting until a resource is finished or gone, by looking it up again and again within a bounded
time. A time beyond the end of the clock cannot be told: the wait panics when it comes to one.
-/
namespace PipelineObserver

structure FinishWait where
  target : Tracker
  -- No look-up begins after this time. It is fixed when the wait begins.
  deadline : Option Nat := none
  deriving DecidableEq

namespace FinishWait

inductive Result where
  -- The final snapshot, or nothing if the resource is gone.
  | returned (last : Except Failure (Option Snapshot))
  | panicked

abbrev Outcome := Turn FinishWait Result

/-- The time after some duration, unless it is beyond the end of the clock. -/
def later? (time duration : Nat) : Option Nat :=
  if Bounds.lastTime < time + duration then none else some (time + duration)

/-- The error of a wait that would go on past its deadline. -/
def expired (w : FinishWait) : Failure :=
  .timeout (w.target.kind.name ++ " '" ++ w.target.name ++ "' did not finish within "
    ++ toString (w.target.config.wait.timeout / 1000) ++ "s")

/-- One turn: the deadline is fixed, or there is a look-up, and a pause if the resource is not
finished and there is time for another. -/
def turn (w : FinishWait) : Dialogue Outcome :=
  match w.deadline with
  | none => do
    match later? (← Dialogue.now) w.target.config.wait.timeout with
    | none => return .yield .panicked w
    | some deadline => return .again { w with deadline := some deadline }
  | some deadline => do
    match ← w.target.snapshot.run with
    | .error e => return .yield (.returned (.error e)) w
    | .ok none => return .yield (.returned (.ok none)) w
    | .ok (some s) =>
      if w.target.isFinished s then return .yield (.returned (.ok (some s))) w
      else
        match later? (← Dialogue.now) w.target.config.wait.pollInterval with
        | none => return .yield .panicked w
        | some next =>
          if deadline < next then return .yield (.returned (.error w.expired)) w
          else
            Dialogue.sleep w.target.config.wait.pollInterval
            return .again w

end FinishWait

/-- Waits until the resource is finished or gone, at most for the configured time from now. -/
def Tracker.waitForFinish (t : Tracker) : FinishWait := { target := t }

end PipelineObserver
