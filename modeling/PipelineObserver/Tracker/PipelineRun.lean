import PipelineObserver.Tracker.Children
/-!
Pipeline runs and the task runs that they started.
-/
namespace PipelineObserver

structure PipelineRun where
  config : Config
  name : String
  deriving DecidableEq

namespace PipelineRun

def tracker (p : PipelineRun) : Tracker := ⟨p.config, .pipelineRun, p.name⟩

def taskRun (p : PipelineRun) (child : ChildReference) : Tracker := ⟨p.config, .taskRun, child.name⟩

def watchNewChildren (p : PipelineRun) : ChildWatch := { channel := p.tracker.watch }

/-- The task runs that the pipeline run lists now, in the server's order; none if it is gone. -/
def childTaskRuns (p : PipelineRun) : Client (List ChildReference) := do
  return ((← p.tracker.snapshot).map Snapshot.taskRuns).getD []

/-- Whether the first condition of one of the children satisfies a predicate. The children are
looked up in their order, no further than the first that does. -/
def anyInState (p : PipelineRun) (holds : Condition → Bool) : List ChildReference → Client Bool
  | [] => return false
  | child :: rest => do
    if (← (p.taskRun child).condition?).any holds then return true
    else p.anyInState holds rest

/-- Whether the first condition of a task run satisfies a predicate. Task runs that are gone or
report nothing never do. -/
def anyTaskInState (p : PipelineRun) (holds : Condition → Bool) : Client Bool := do
  p.anyInState holds (← p.childTaskRuns)

/-- Whether a task run completed with a failure of its own. -/
def anyTaskFailed (p : PipelineRun) : Client Bool := p.anyTaskInState p.config.policy.isFailedTask

def anyTaskCancelled (p : PipelineRun) : Client Bool :=
  p.anyTaskInState p.config.policy.isCancelledTask

/-- The task runs that still exist, with their references, in the order of the pipeline run. -/
def existing (p : PipelineRun) : List ChildReference → Client (List (ChildReference × Snapshot))
  | [] => return []
  | child :: rest => do
    let found ← (p.taskRun child).snapshot
    let more ← p.existing rest
    return match found with
      | some s => (child, s) :: more
      | none => more

/-- Snapshots of the task runs that the pipeline run lists and that still exist. -/
def taskRuns (p : PipelineRun) : Client (List (ChildReference × Snapshot)) := do
  p.existing (← p.childTaskRuns)

end PipelineRun

end PipelineObserver
