import PipelineObserver.Timestamp
/-!
Conditions: what a resource reports about its own state.
-/
namespace PipelineObserver

inductive ConditionStatus where
  | true
  | false
  | unknown
  deriving DecidableEq

namespace ConditionStatus

/-- A status that is absent or has another name is unknown. -/
def ofName? : Option String → ConditionStatus
  | some "True" => .true
  | some "False" => .false
  | _ => .unknown

def name : ConditionStatus → String
  | .true => "True"
  | .false => "False"
  | .unknown => "Unknown"

def isTerminal : ConditionStatus → Bool
  | .true | .false => Bool.true
  | .unknown => Bool.false

end ConditionStatus

structure Condition where
  status : ConditionStatus
  reason : String
  message : String
  -- When the resource that has the condition completed, if it says so.
  completionTime : Option Timestamp
  deriving DecidableEq

namespace Condition

/-- The reason given while a resource is being executed. -/
def runningReason : String := "Running"

def isRunning (c : Condition) : Bool := c.status = .unknown ∧ c.reason = runningReason

/-- The resource is running or has reached an end state. -/
def hasStarted (c : Condition) : Bool := c.status.isTerminal || c.isRunning

end Condition

end PipelineObserver
