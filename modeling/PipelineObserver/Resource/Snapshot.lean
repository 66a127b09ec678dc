import PipelineObserver.Resource.Condition
import PipelineObserver.Resource.Kind
import PipelineObserver.Resource.Step
/-!
Snapshots: what is known of one resource from one document.
-/
namespace PipelineObserver

/-- A reference from a pipeline run to a run it started. -/
structure ChildReference where
  kind : Option String
  name : String
  pipelineTaskName : Option String
  deriving DecidableEq

namespace ChildReference

/-- The name of the pipeline task that the child executes, or else the child's own name. -/
def taskName (c : ChildReference) : String := c.pipelineTaskName.getD c.name

def isKind (k : Kind) (c : ChildReference) : Bool := c.kind = some k.name

end ChildReference

/-- A result that a task or a pipeline declared. -/
structure NamedResult where
  name : String
  value : Json
  deriving DecidableEq

structure Snapshot where
  kind : String
  name : String
  -- The first condition is the one that counts.
  conditions : List Condition
  -- The runs that a pipeline run started, in the server's order.
  children : List ChildReference
  -- The pod that hosts the steps of a task run.
  podReference : Option String
  steps : List Step
  results : List NamedResult
  labels : Table String
  annotations : Table String
  -- The document as received.
  raw : Json
  deriving DecidableEq

namespace Snapshot

/-- The condition that counts, if any was reported. -/
def condition? (s : Snapshot) : Option Condition := s.conditions.head?

def isObserved (s : Snapshot) : Bool := !s.conditions.isEmpty

def hasStarted (s : Snapshot) : Bool := s.condition?.any Condition.hasStarted

def isTerminal (s : Snapshot) : Bool := s.condition?.any (·.status.isTerminal)

/-- The children of a kind, in the server's order. -/
def childrenOf (s : Snapshot) (k : Kind) : List ChildReference := s.children.filter (·.isKind k)

def taskRuns (s : Snapshot) : List ChildReference := s.childrenOf .taskRun

/-- The containers of the steps, in their order. -/
def stepContainers (s : Snapshot) : List String := s.steps.map (·.containerName)

/-- The value of the first result with a name. -/
def result? (s : Snapshot) (name : String) : Option Json :=
  (s.results.find? (·.name = name)).map (·.value)

end Snapshot

end PipelineObserver
