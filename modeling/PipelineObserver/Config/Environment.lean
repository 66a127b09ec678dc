import PipelineObserver.Bounds
import PipelineObserver.Config.Basic
import PipelineObserver.Table
import PipelineObserver.Text.Blank
import PipelineObserver.Text.Count
/-!
Configurations read from environment variables.
-/
namespace PipelineObserver

inductive EnvironmentError where
  | unset (name : String)
  | invalid (name value : String) (cause : Text.CountError)
  deriving DecidableEq

namespace EnvironmentError

def message : EnvironmentError → String
  | unset name => name ++ " environment variable not set"
  | invalid name value cause => "invalid value '" ++ value ++ "' for " ++ name ++ ": " ++ cause.message

end EnvironmentError

namespace Config

def requiredVariable (env : Table String) (name : String) : Except EnvironmentError String :=
  match Table.get? name env with
  | some value => .ok value
  | none => .error (.unset name)

/-- A number, with any white space around it, or the default if the variable is not set. -/
def countVariable (env : Table String) (name : String) (greatest default : Nat) :
    Except EnvironmentError Nat :=
  match Table.get? name env with
  | none => .ok default
  | some value =>
    match Text.readCount greatest (Text.trim value) with
    | .ok n => .ok n
    | .error cause => .error (.invalid name value cause)

/-- A number of seconds, in milliseconds. -/
def secondsVariable (env : Table String) (name : String) (default : Nat) :
    Except EnvironmentError Nat :=
  match Table.get? name env with
  | none => .ok default
  | some _ => (countVariable env name Bounds.greatestUnsigned64 0).map (· * 1000)

/-- The configuration that the variables give. An empty token is none. -/
def ofEnvironment (env : Table String) : Except EnvironmentError Config := do
  let apiUrl ← requiredVariable env "PIPEWATCH_API_URL"
  let ns ← requiredVariable env "PIPEWATCH_NAMESPACE"
  let base : Config := { apiUrl := apiUrl, «namespace» := ns }
  let retryDelay ← secondsVariable env "PIPEWATCH_WATCH_RETRY_SECS" base.watch.retryDelay
  let maxAttempts ←
    countVariable env "PIPEWATCH_WATCH_RETRIES" Bounds.greatestUnsigned32 base.watch.maxAttempts
  let pollInterval ← secondsVariable env "PIPEWATCH_POLL_INTERVAL_SECS" base.wait.pollInterval
  let timeout ← secondsVariable env "PIPEWATCH_WAIT_TIMEOUT_SECS" base.wait.timeout
  return { base with
    token := (Table.get? "PIPEWATCH_TOKEN" env).filter (· ≠ "")
    watch := { base.watch with retryDelay := retryDelay, maxAttempts := maxAttempts }
    wait := { pollInterval := pollInterval, timeout := timeout } }

end Config

end PipelineObserver
