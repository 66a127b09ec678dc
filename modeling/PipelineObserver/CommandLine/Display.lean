import PipelineObserver.CommandLine.Style
import PipelineObserver.Json.Printer
import PipelineObserver.Lifecycle
import PipelineObserver.Logs.Source
import PipelineObserver.Resource.Snapshot
/-!
How things are shown on a terminal. Every text here ends with the end of a line, unless it is a part
of one.
-/
namespace PipelineObserver

def line (text : String) : String := text ++ "\n"

def Lifecycle.style : Lifecycle → Style
  | notStarted => .yellow
  | running => .blue
  | succeeded => .green
  | failed => .red
  | cancelled => .dimmed

namespace Colored

def state (colored : Colored) (l : Lifecycle) : String := colored.paint l.style l.display

/-- A field of the details below the first one. -/
def field (colored : Colored) (name value : String) : String :=
  line ("  " ++ colored.paint .bold (name ++ ":") ++ " " ++ value)

/-- What the condition that counts says. An empty message is left out. -/
def condition (colored : Colored) (c : Condition) : String :=
  colored.field "Reason" c.reason
    ++ (if c.message = "" then "" else colored.field "Message" c.message)
    ++ (match c.completionTime with
      | some time => colored.field "Completed" time.display
      | none => "")

/-- The name of a pipeline run, its state and what its condition says. -/
def details (colored : Colored) (policy : StatePolicy) (s : Snapshot) : String :=
  line (colored.paint .bold "Pipeline run:" ++ " " ++ s.name)
    ++ colored.field "State" (colored.state (policy.lifecycle s.condition?))
    ++ (match s.condition? with
      | some c => colored.condition c
      | none => "")

/-- A task run in the list of a pipeline run's. -/
def taskRun (colored : Colored) (l : Lifecycle) (child : ChildReference) : String :=
  line ("  " ++ colored.state l ++ " " ++ colored.paint .bold child.taskName ++ " ("
    ++ colored.paint .dimmed child.name ++ ")")

/-- The log of a container under its name. Its last line is ended if the log itself does not end it.
-/
def source (colored : Colored) (log : SourceLog) : String :=
  (match log.container with
    | some container => line (colored.paint .dimmed ("── " ++ container ++ " "))
    | none => "")
    ++ log.text
    ++ (if log.text = "" ∨ log.text.toList.getLast? = some '\n' then "" else "\n")

def sources (colored : Colored) (logs : List SourceLog) : String :=
  String.join (logs.map colored.source)

/-- The logs of a task under its name. -/
def taskLogs (colored : Colored) (task : String) (logs : List SourceLog) : String :=
  line (colored.paint .bold ("Logs for task " ++ task ++ ":")) ++ colored.sources logs

/-- A line of a task among lines of others. -/
def taskLine (colored : Colored) (task text : String) : String :=
  line (colored.paint .cyan ("[" ++ task ++ "]") ++ " " ++ text)

/-- Something that was not found, on a line of its own. -/
def absence (colored : Colored) (text : String) : String := line (colored.paint .yellow text)

def results (colored : Colored) (found : Table Json) : String :=
  if found.isEmpty then colored.absence "No pipeline results."
  else line (Json.object found).pretty

def taskResults (colored : Colored) (found : Table (Table Json)) : String :=
  line "" ++ line (colored.paint .bold "Task results:")
    ++ line (Json.object (found.map fun (task, results) => (task, Json.object results))).pretty

end Colored

end PipelineObserver
