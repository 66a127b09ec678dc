import PipelineObserver.Bounds
import PipelineObserver.CommandLine.Arguments
import PipelineObserver.Config.Basic
import PipelineObserver.Table
import PipelineObserver.Text.Count
/-!
The settings that go before a command, and the configuration that they make.
-/
namespace PipelineObserver

structure Settings where
  apiUrl : String
  «namespace» : String
  token : Option String := none
  -- The longest wait, in seconds.
  waitTimeout : Option Nat := none
  -- The pause between two look-ups, in seconds.
  pollInterval : Option Nat := none
  deriving DecidableEq

namespace Settings

/-- The configuration, without regard to what is wrong with it. An empty token is none. -/
def toConfig (s : Settings) : Config :=
  let base : Config := { apiUrl := s.apiUrl, «namespace» := s.namespace }
  { base with
    token := s.token.filter (· ≠ "")
    wait :=
      { pollInterval := (s.pollInterval.map (· * 1000)).getD base.wait.pollInterval
        timeout := (s.waitTimeout.map (· * 1000)).getD base.wait.timeout } }

/-- The configuration, if nothing is wrong with it. -/
def config (s : Settings) : Except ConfigError Config := do
  s.toConfig.validate
  return s.toConfig

/-- What is said of a configuration that is wrong. -/
def complaint (e : ConfigError) : String := "Invalid configuration: " ++ e.message

def knownOptions : List KnownOption := [
  ⟨"api-url", none, true⟩, ⟨"namespace", some 'n', true⟩, ⟨"token", none, true⟩,
  ⟨"wait-timeout", none, true⟩, ⟨"poll-interval", none, true⟩]

/-- The environment variable that counts where an option is not given. -/
def environmentName? : String → Option String
  | "api-url" => some "PIPEWATCH_API_URL"
  | "namespace" => some "PIPEWATCH_NAMESPACE"
  | "token" => some "PIPEWATCH_TOKEN"
  | "wait-timeout" => some "PIPEWATCH_WAIT_TIMEOUT_SECS"
  | "poll-interval" => some "PIPEWATCH_POLL_INTERVAL_SECS"
  | _ => none

/-- A setting from its option or else from the environment. -/
def given? (env : Table String) (a : Arguments) (long : String) : Option String :=
  (a.option? long).or ((environmentName? long).bind fun name => Table.get? name env)

/-- A number of seconds, if it is given; there is no answer to one that is no number. -/
def seconds? (env : Table String) (a : Arguments) (long : String) : Option (Option Nat) :=
  match given? env a long with
  | none => some none
  | some text =>
    match Text.readCount Bounds.greatestUnsigned64 text with
    | .ok n => some (some n)
    | .error _ => none

/-- The settings of options and environment. Address and namespace must be given. -/
def ofArguments? (env : Table String) (a : Arguments) : Option Settings := do
  let apiUrl ← given? env a "api-url"
  let ns ← given? env a "namespace"
  let waitTimeout ← seconds? env a "wait-timeout"
  let pollInterval ← seconds? env a "poll-interval"
  return {
    apiUrl := apiUrl
    «namespace» := ns
    token := given? env a "token"
    waitTimeout := waitTimeout
    pollInterval := pollInterval }

end Settings

end PipelineObserver
