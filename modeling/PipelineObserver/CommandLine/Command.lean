import PipelineObserver.CommandLine.Arguments
/-!
Commands about one pipeline run, and their reading from arguments.
-/
namespace PipelineObserver

inductive Command where
  -- Shows the state of the pipeline run and of its task runs.
  | status (name : String)
  -- Waits for the pipeline run to finish.
  | wait (name : String)
  -- Prints logs, of one task run if it is given.
  | logs (name : String) (follow : Bool) (taskRun : Option String)
  -- Explains why the pipeline run failed.
  | errors (name : String)
  -- Prints the results, and those of every task if asked for.
  | results (name : String) (tasks : Bool)
  | cancel (name : String)
  deriving DecidableEq

namespace Command

/-- The options of the command that begins with a word. -/
def knownOptions : String → List KnownOption
  | "logs" => [⟨"follow", some 'f', false⟩, ⟨"task", none, true⟩]
  | "results" => [⟨"tasks", none, false⟩]
  | _ => []

/-- The command that begins with a word and goes on with the given arguments, if it is well formed.
-/
def ofWord? (word : String) (args : List String) : Option Command := do
  let a ← Arguments.ofList? (knownOptions word) args
  let name ← a.operand?
  match word with
  | "status" => some (status name)
  | "wait" => some (wait name)
  | "logs" => some (logs name (a.has "follow") (a.option? "task"))
  | "errors" => some (errors name)
  | "results" => some (results name (a.has "tasks"))
  | "cancel" => some (cancel name)
  | _ => none

def ofList? : List String → Option Command
  | word :: args => ofWord? word args
  | [] => none

end Command

end PipelineObserver
