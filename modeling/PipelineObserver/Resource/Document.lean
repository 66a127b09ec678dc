import PipelineObserver.Bounds
import PipelineObserver.Json.Record
import PipelineObserver.Resource.Snapshot
/-!
Reading a snapshot from a resource document. Members that are not named here are passed over, and
every field but the name of a result may be absent or null.
-/
namespace PipelineObserver

namespace Document

open Json (fields? optional? required? list? labels?)

/-- A condition as written, before the resource's completion time joins it. -/
structure ReportedCondition where
  status : Option String
  reason : Option String
  message : Option String
  deriving DecidableEq

def condition? (doc : Json) : Option ReportedCondition := do
  let fields ← fields? ["type", "status", "reason", "message"] doc
  let _ ← optional? Json.text? "type" fields
  let status ← optional? Json.text? "status" fields
  let reason ← optional? Json.text? "reason" fields
  let message ← optional? Json.text? "message" fields
  return ⟨status, reason, message⟩

/-- A child reference; it counts only if it has a name. -/
def child? (doc : Json) : Option (Option ChildReference) := do
  let fields ← fields? ["apiVersion", "kind", "name", "pipelineTaskName"] doc
  let _ ← optional? Json.text? "apiVersion" fields
  let kind ← optional? Json.text? "kind" fields
  let name ← optional? Json.text? "name" fields
  let pipelineTaskName ← optional? Json.text? "pipelineTaskName" fields
  return name.map fun name => ⟨kind, name, pipelineTaskName⟩

def exitCode? : Json → Option Int := Json.integer? Bounds.least32 Bounds.greatest32

def termination? (doc : Json) : Option Termination := do
  let fields ← fields? ["exitCode", "reason", "message"] doc
  let exitCode ← optional? exitCode? "exitCode" fields
  let reason ← optional? Json.text? "reason" fields
  let message ← optional? Json.text? "message" fields
  return ⟨exitCode.getD 0, reason.getD "", message⟩

/-- A step. Its container is named after it unless the document says otherwise. -/
def step? (doc : Json) : Option Step := do
  let fields ← fields? ["name", "container", "terminated"] doc
  let name ← optional? Json.text? "name" fields
  let container ← optional? Json.text? "container" fields
  let terminated ← optional? termination? "terminated" fields
  let name := name.getD ""
  return ⟨name, container.getD ("step-" ++ name), terminated⟩

/-- A result. Its name must be there; a value that is left out is null. -/
def result? (doc : Json) : Option NamedResult := do
  let fields ← fields? ["name", "value"] doc
  let name ← required? Json.text? "name" fields
  return ⟨name, (Table.get? "value" fields).getD .null⟩

/-- The status block of any kind. Pipeline runs have children and results, task runs have a pod,
steps and results, pods have a phase. -/
structure Status where
  conditions : List ReportedCondition := []
  completionTime : Option String := none
  children : List ChildReference := []
  podName : Option String := none
  steps : List Step := []
  results : List NamedResult := []
  phase : Option String := none

def status? (doc : Json) : Option Status := do
  let fields ← fields?
    ["conditions", "startTime", "completionTime", "childReferences", "podName", "steps",
      "taskResults", "pipelineResults", "results", "phase"] doc
  let conditions ← optional? (list? condition?) "conditions" fields
  let _ ← optional? Json.text? "startTime" fields
  let completionTime ← optional? Json.text? "completionTime" fields
  let children ← optional? (list? child?) "childReferences" fields
  let podName ← optional? Json.text? "podName" fields
  let steps ← optional? (list? step?) "steps" fields
  let taskResults ← optional? (list? result?) "taskResults" fields
  let pipelineResults ← optional? (list? result?) "pipelineResults" fields
  let results ← optional? (list? result?) "results" fields
  let phase ← optional? Json.text? "phase" fields
  return {
    conditions := conditions.getD []
    completionTime := completionTime
    children := (children.getD []).filterMap id
    podName := podName
    steps := steps.getD []
    results := taskResults.getD [] ++ pipelineResults.getD [] ++ results.getD []
    phase := phase }

structure Metadata where
  name : Option String := none
  labels : Option (Table String) := none
  annotations : Option (Table String) := none

def metadata? (doc : Json) : Option Metadata := do
  let fields ← fields? ["name", "labels", "annotations"] doc
  let name ← optional? Json.text? "name" fields
  let labels ← optional? labels? "labels" fields
  let annotations ← optional? labels? "annotations" fields
  return ⟨name, labels, annotations⟩

/-- The reported conditions, each with the completion time of the resource. A time that cannot be
read counts as none. -/
def Status.reported (s : Status) : List Condition :=
  let completionTime := s.completionTime.bind Timestamp.parse?
  s.conditions.map fun c =>
    ⟨ConditionStatus.ofName? c.status, c.reason.getD "", c.message.getD "", completionTime⟩

/-- The one condition that the phase of a pod stands for. -/
def phaseCondition (phase : String) : Condition :=
  let status : ConditionStatus :=
    if phase = "Succeeded" then .true else if phase = "Failed" then .false else .unknown
  ⟨status, phase, "", none⟩

/-- Pods report a phase instead of conditions. -/
def Status.conditionsOf (s : Status) : Kind → List Condition
  | .pod => s.phase.toList.map phaseCondition
  | .pipelineRun | .taskRun => s.reported

end Document

open Document Json in
/-- The snapshot of a resource of kind `k` from its document. -/
def Snapshot.ofDocument? (k : Kind) (doc : Json) : Option Snapshot := do
  let fields ← fields? ["kind", "metadata", "status"] doc
  let kind ← optional? Json.text? "kind" fields
  let metadata ← optional? metadata? "metadata" fields
  let status ← optional? status? "status" fields
  let metadata := metadata.getD {}
  let status := status.getD {}
  return {
    kind := kind.getD k.name
    name := metadata.name.getD ""
    conditions := status.conditionsOf k
    children := status.children
    podReference := status.podName.filter (· ≠ "")
    steps := status.steps
    results := status.results
    labels := metadata.labels.getD []
    annotations := metadata.annotations.getD []
    raw := doc }

end PipelineObserver
