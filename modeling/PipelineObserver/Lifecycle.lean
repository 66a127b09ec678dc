import PipelineObserver.Resource.Condition
/-!
The lifecycle of a resource, derived from its first condition. Which reasons mean cancelled, skipped
or succeeded is a policy, since servers differ in it.
-/
namespace PipelineObserver

inductive Lifecycle where
  | notStarted
  | running
  | succeeded
  | failed
  | cancelled
  deriving DecidableEq

namespace Lifecycle

def name : Lifecycle → String
  | notStarted => "NotStarted"
  | running => "Running"
  | succeeded => "Succeeded"
  | failed => "Failed"
  | cancelled => "Cancelled"

def display : Lifecycle → String
  | notStarted => "not started"
  | running => "running"
  | succeeded => "succeeded"
  | failed => "failed"
  | cancelled => "cancelled"

end Lifecycle

/-- The reasons that mean cancelled, skipped and succeeded. -/
structure StatePolicy where
  cancelledReasons : List String := ["PipelineRunCancelled", "TaskRunCancelled", "Cancelled"]
  skippedReasons : List String := ["None"]
  succeededReasons : List String := ["Succeeded"]
  deriving DecidableEq

namespace StatePolicy

def isCancelled (p : StatePolicy) (reason : String) : Bool := p.cancelledReasons.contains reason

def isSkipped (p : StatePolicy) (reason : String) : Bool := p.skippedReasons.contains reason

def isSucceeded (p : StatePolicy) (reason : String) : Bool := p.succeededReasons.contains reason

/-- A reason that means cancelled outweighs the status. -/
def lifecycle (p : StatePolicy) : Option Condition → Lifecycle
  | none => .notStarted
  | some c =>
    if p.isCancelled c.reason then .cancelled
    else
      match c.status with
      | .true => .succeeded
      | .false => .failed
      | .unknown => if c.isRunning then .running else .notStarted

/-- The resource is in progress and not being cancelled. -/
def isUnfinished (p : StatePolicy) (c : Condition) : Bool :=
  c.status = .unknown && !p.isCancelled c.reason

/-- A task failed by itself: it completed with `False` and was not cancelled. -/
def isFailedTask (p : StatePolicy) (c : Condition) : Bool :=
  c.status = .false && !p.isCancelled c.reason && c.completionTime.isSome

def isCancelledTask (p : StatePolicy) (c : Condition) : Bool := p.isCancelled c.reason

/-- A task that ended in this condition has a part in the explanation of a failure. -/
def reportsFailure (p : StatePolicy) (c : Condition) : Bool :=
  c.status.isTerminal && !p.isSucceeded c.reason && !p.isSkipped c.reason

end StatePolicy

end PipelineObserver
