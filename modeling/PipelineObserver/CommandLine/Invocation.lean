import PipelineObserver.CommandLine.Command
import PipelineObserver.CommandLine.Settings
/-!
Invocations: settings, and a command after them.
-/
namespace PipelineObserver

structure Invocation where
  settings : Settings
  command : Command
  deriving DecidableEq

namespace Invocation

/-- Reads an invocation from the environment and from arguments. -/
def ofList? (env : Table String) (args : List String) : Option Invocation := do
  let (a, rest) ← Arguments.leading? Settings.knownOptions {} args
  let word ← a.operand?
  let command ← Command.ofWord? word rest
  let settings ← Settings.ofArguments? env a
  if a.literal then none else some ⟨settings, command⟩

/-- What is said to someone who asks for help, or whose arguments cannot be read. -/
def usage : String :=
  "Follow pipeline runs, their logs and failures\n\n"
    ++ "Usage: pipewatch --api-url URL --namespace NAME [--token TOKEN] [--wait-timeout SECONDS]\n"
    ++ "                 [--poll-interval SECONDS] COMMAND NAME\n\n"
    ++ "Commands:\n"
    ++ "  status   Show the state of a pipeline run and its task runs\n"
    ++ "  wait     Wait for a pipeline run to finish\n"
    ++ "  logs     Print logs of a pipeline run [--follow] [--task NAME]\n"
    ++ "  errors   Explain why a pipeline run failed\n"
    ++ "  results  Print pipeline results [--tasks]\n"
    ++ "  cancel   Cancel a pipeline run\n"

end Invocation

end PipelineObserver
