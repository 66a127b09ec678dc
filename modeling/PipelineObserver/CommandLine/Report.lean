import PipelineObserver.Aggregate.Summary
import PipelineObserver.CommandLine.Command
import PipelineObserver.CommandLine.Display
import PipelineObserver.Logs.Output
import PipelineObserver.Tracker.FinishWait
import PipelineObserver.Tracker.Update
/-!
Reports: dialogues that print. What a command comes to is a report, or a wait before a report, or
lines that are printed as they come.
-/
namespace PipelineObserver

inductive CommandError where
  | client (e : Failure)
  -- The pipeline run to wait for does not exist.
  | missing (name : String)
  -- The pipeline run finished in another state than success.
  | unsuccessful (name : String) (state : Lifecycle)
  deriving DecidableEq

namespace CommandError

def message : CommandError → String
  | client e => e.message
  | missing name => "Pipeline run '" ++ name ++ "' does not exist"
  | unsuccessful name state => "Pipeline run '" ++ name ++ "' " ++ state.display

end CommandError

/-- A dialogue that prints and may fail. What was printed before a failure stays. -/
abbrev Report := ExceptT CommandError (StateT String Dialogue)

namespace Report

def print (text : String) : Report Unit := modify (· ++ text)

/-- A dialogue of a client, whose failure is that of the report. -/
def ofClient {α : Type} (c : Client α) : Report α :=
  ExceptT.mk fun printed => do
    match ← c.run with
    | .ok a => return (.ok a, printed)
    | .error e => return (.error (.client e), printed)

/-- Prints the task runs of a pipeline run with their states. -/
def taskRuns (colored : Colored) (p : PipelineRun) : List ChildReference → Report Unit
  | [] => return
  | child :: rest => do
    let state ← ofClient (p.taskRun child).lifecycle
    print (colored.taskRun state child)
    taskRuns colored p rest

/-- Prints the state of a pipeline run and of its task runs. -/
def status (colored : Colored) (p : PipelineRun) : Report Unit := do
  match ← ofClient p.tracker.snapshot with
  | none => print (colored.absence ("Pipeline run '" ++ p.name ++ "' not found."))
  | some s =>
    print (colored.details p.config.policy s)
    let children ← ofClient p.childTaskRuns
    if !children.isEmpty then
      print (line "" ++ line (colored.paint .bold "Task runs:"))
      taskRuns colored p children

/-- Prints how a pipeline run ended, and the explanation unless it succeeded, which is then the
failure of the report. -/
def ending (colored : Colored) (p : PipelineRun) : Option Snapshot → Report Unit
  | none => throw (.missing p.name)
  | some s => do
    print (colored.details p.config.policy s)
    let state := p.config.policy.lifecycle s.condition?
    if state ≠ .succeeded then
      print (line "")
      let explanation ← ofClient p.errorMessage
      print (colored.paint .red explanation)
      throw (.unsuccessful p.name state)

def errors (colored : Colored) (p : PipelineRun) : Report Unit := do
  let records ← ofClient p.errorRecords
  print (String.join (records.map fun r => line (colored.paint .red r.display)))

/-- Prints the results of a pipeline run, and those of its tasks if asked for. -/
def results (colored : Colored) (p : PipelineRun) (tasks : Bool) : Report Unit := do
  let found ← ofClient p.pipelineResults
  print (colored.results found)
  if tasks then
    let found ← ofClient p.taskResults
    print (colored.taskResults found)

def cancel (colored : Colored) (p : PipelineRun) : Report Unit := do
  let _ ← ofClient p.cancel
  print (line (colored.paint .green ("✓ Cancellation of '" ++ p.name ++ "' requested")))

/-- Prints the logs of all task runs as they are now. -/
def logs (colored : Colored) (p : PipelineRun) : Report Unit := do
  let found ← ofClient p.logs
  if found.isEmpty then print (colored.absence "No logs found for this pipeline run.")
  else print (String.join (found.map fun (task, logs) => colored.taskLogs task logs))

/-- Prints the logs of one task run as they are now. -/
def taskRunLogs (colored : Colored) (t : TaskRunLogs) : Report Unit := do
  let found ← ofClient t.fetchAll
  if found.isEmpty then print (colored.absence "No logs found for this task run.")
  else print (colored.sources found)

end Report

/-- What a command comes to. -/
inductive Conclusion where
  | completed (result : Except CommandError Unit)
  -- The program broke off in the middle of a wait.
  | panicked

inductive Undertaking where
  | report (report : Report Unit)
  -- A wait for the end, which is then reported.
  | await (wait : FinishWait) (ending : Option Snapshot → Report Unit)
  -- The lines of one task run, printed as they come.
  | follow (lines : LogLines)
  -- The lines of all task runs, printed as they come.
  | followAll (run : PipelineRun)

def Command.undertaking (config : Config) (colored : Colored) : Command → Undertaking
  | status name => .report (.status colored ⟨config, name⟩)
  | wait name =>
    let p : PipelineRun := ⟨config, name⟩
    .await p.tracker.waitForFinish (.ending colored p)
  | logs _ true (some taskRun) => .follow (TaskRunLogs.stream ⟨config, taskRun⟩)
  | logs _ false (some taskRun) => .report (.taskRunLogs colored ⟨config, taskRun⟩)
  | logs name true none => .followAll ⟨config, name⟩
  | logs name false none => .report (.logs colored ⟨config, name⟩)
  | errors name => .report (.errors colored ⟨config, name⟩)
  | results name tasks => .report (.results colored ⟨config, name⟩ tasks)
  | cancel name => .report (.cancel colored ⟨config, name⟩)

end PipelineObserver
