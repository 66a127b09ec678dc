import PipelineObserver.Diagnosis.Narrative
import PipelineObserver.Logs.Source
import PipelineObserver.Tracker.PipelineRun
/-!
Views of a whole pipeline run: the results of its tasks and its own, the explanation of its failure,
and the logs of its tasks.
-/
namespace PipelineObserver

/-- The results by name, of which the last under a name counts. -/
def resultTable (results : List NamedResult) : Table Json :=
  Table.ofList (results.map fun r => (r.name, r.value))

/-- The results by name, decoded. Null results are passed over, before the last under a name counts.
-/
def decodedResults (results : List NamedResult) : Table Json :=
  Table.ofList ((results.map fun r => (r.name, r.value.decoded)).filter fun r => !r.2.isNull)

namespace PipelineRun

/-- The results of each task, by the names of the tasks. -/
def taskResults (p : PipelineRun) : Client (Table (Table Json)) := do
  return Table.ofList ((← p.taskRuns).map fun (child, s) => (child.taskName, resultTable s.results))

/-- The results of the pipeline run itself; none if it is gone. -/
def pipelineResults (p : PipelineRun) : Client (Table Json) := do
  return match ← p.tracker.snapshot with
    | some s => decodedResults s.results
    | none => []

def errorRecords (p : PipelineRun) : Client (List ErrorRecord) := do
  match ← p.tracker.snapshot with
  | none => return Diagnosis.missing p.name
  | some pipeline =>
    let taskRuns ← p.taskRuns
    return Diagnosis.narrative p.config.policy p.config.pluginTask p.name pipeline taskRuns

def errorMessage (p : PipelineRun) : Client String := do
  return ErrorRecord.render (← p.errorRecords)

/-- The logs of task runs, by the names of their tasks. -/
def logsOf (p : PipelineRun) :
    List ChildReference → Client (List (String × List SourceLog))
  | [] => return []
  | child :: rest => do
    let logs ← TaskRunLogs.fetchAll ⟨p.config, child.name⟩
    let more ← p.logsOf rest
    return (child.taskName, logs) :: more

/-- The logs of all task runs, in the order of the pipeline run. -/
def logs (p : PipelineRun) : Client (List (String × List SourceLog)) := do
  p.logsOf (← p.childTaskRuns)

end PipelineRun

end PipelineObserver
