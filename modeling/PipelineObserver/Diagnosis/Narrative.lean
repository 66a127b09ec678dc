import PipelineObserver.Diagnosis.Embedded
import PipelineObserver.Lifecycle
/-!
The explanation of a failed pipeline run: the errors of plugins, then what each failed task says of
itself, and if no task says anything, what can be said of the pipeline run as a whole.
-/
namespace PipelineObserver.Diagnosis

/-- What a failed step says: the result in its termination message, or else how it ended. -/
def stepDetail (s : Step) : String :=
  match s.terminated with
  | none => ""
  | some t =>
    match t.taskResult with
    | .ok (some result) => result
    | .ok none | .error _ =>
      "failed with exit code " ++ toString t.exitCode ++ " and reason '" ++ t.reason ++ "'"

/-- A task run that has a part in the explanation. -/
structure FailedTask where
  task : String
  condition : Condition
  steps : List Step

/-- The task runs that report a failure, in the order of the pipeline run. -/
def failedTasks (policy : StatePolicy) (taskRuns : List (ChildReference × Snapshot)) :
    List FailedTask :=
  taskRuns.filterMap fun (child, s) =>
    match s.condition? with
    | some c => if policy.reportsFailure c then some ⟨child.taskName, c, s.steps⟩ else none
    | none => none

namespace FailedTask

/-- The failed steps, each with what it says. -/
def stepRecords (t : FailedTask) : List ErrorRecord :=
  (t.steps.filter (·.hasFailed)).map fun s => .step t.task s.name (stepDetail s)

/-- What a failed task says: its failed steps, or else its message. -/
def explanation (t : FailedTask) : List ErrorRecord :=
  let steps := t.stepRecords
  if !steps.isEmpty then steps
  else if t.condition.message ≠ "" then [.task t.task t.condition.message]
  else []

/-- What is said of a failed task that says nothing itself. -/
def bareRecord (t : FailedTask) : ErrorRecord :=
  .task t.task ("task run finished with reason '" ++ t.condition.reason ++ "'")

end FailedTask

/-- What is said when no task explains the failure: the message of the pipeline run, or else the
failed tasks by their reasons, or else that there is nothing to say. -/
def fallback (name : String) (pipeline : Snapshot) (failed : List FailedTask) : List ErrorRecord :=
  match (pipeline.condition?.map (·.message)).filter (· ≠ "") with
  | some message => [.pipeline name message]
  | none =>
    if failed.isEmpty then [.pipeline name "pipeline run failed without an error message"]
    else failed.map (·.bareRecord)

/-- What the tasks say, or else what can be said in their place. -/
def taskRecords (policy : StatePolicy) (name : String) (pipeline : Snapshot)
    (taskRuns : List (ChildReference × Snapshot)) : List ErrorRecord :=
  let failed := failedTasks policy taskRuns
  let said := failed.flatMap (·.explanation)
  if said.isEmpty then fallback name pipeline failed else said

/-- The errors of plugins that the first task run of the plugin task reports. -/
def pluginRecords (pluginTask : String) (taskRuns : List (ChildReference × Snapshot)) :
    List ErrorRecord :=
  match taskRuns.find? fun (child, _) => child.taskName = pluginTask with
  | some (_, s) => pluginErrors s
  | none => []

/-- The whole explanation. -/
def narrative (policy : StatePolicy) (pluginTask name : String) (pipeline : Snapshot)
    (taskRuns : List (ChildReference × Snapshot)) : List ErrorRecord :=
  pluginRecords pluginTask taskRuns ++ taskRecords policy name pipeline taskRuns

/-- What is said of a pipeline run that is gone. -/
def missing (name : String) : List ErrorRecord := [.pipeline name "pipeline run does not exist"]

end PipelineObserver.Diagnosis
