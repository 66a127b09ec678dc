import PipelineObserver.Lifecycle
/-!
The configuration of a client: where the server is, and every count, delay and bound that watching,
streaming and waiting keep to. Times are in milliseconds.
-/
namespace PipelineObserver

structure WatchSettings where
  -- The pause before another connection.
  retryDelay : Nat := 5000
  -- The most connections of one watch.
  maxAttempts : Nat := 20
  -- The number of rejected requests at which a watch gives up.
  maxBadResponses : Nat := 20
  deriving DecidableEq

structure LogSettings where
  -- A stream that closes after less idle time than this is complete.
  minIdleTimeout : Nat := 60000
  deriving DecidableEq

/-- How the end of a resource is awaited. -/
structure WaitSettings where
  pollInterval : Nat := 5000
  timeout : Nat := 18000000
  deriving DecidableEq

/-- How an update is repeated that the server rejects because of a conflict. -/
structure ConflictSettings where
  maxRetries : Nat := 3
  delay : Nat := 1000
  deriving DecidableEq

structure Config where
  -- The base address of the server.
  apiUrl : String
  -- The namespace that holds the pipeline runs.
  «namespace» : String
  -- The bearer token sent with every request.
  token : Option String := none
  -- Group and version of the pipelines API.
  pipelinesApiVersion : String := "tekton.dev/v1beta1"
  watch : WatchSettings := {}
  logs : LogSettings := {}
  wait : WaitSettings := {}
  conflict : ConflictSettings := {}
  policy : StatePolicy := {}
  -- The task that reports the errors of plugins.
  pluginTask : String := "binary-container-exit"
  deriving DecidableEq

inductive ConfigError where
  | emptyApiUrl
  | apiUrlScheme
  | emptyNamespace
  | emptyPipelinesApiVersion
  | noAttempts
  | noPollInterval
  | noTimeout
  deriving DecidableEq

namespace ConfigError

def message : ConfigError → String
  | emptyApiUrl => "api_url cannot be empty"
  | apiUrlScheme => "api_url must start with http:// or https://"
  | emptyNamespace => "namespace cannot be empty"
  | emptyPipelinesApiVersion => "pipelines_api_version cannot be empty"
  | noAttempts => "watch.max_attempts must be greater than 0"
  | noPollInterval => "wait.poll_interval must be greater than 0"
  | noTimeout => "wait.timeout must be greater than 0"

end ConfigError

namespace Config

/-- The first thing that is wrong with a configuration, if anything is. -/
def validate (c : Config) : Except ConfigError Unit :=
  if c.apiUrl = "" then .error .emptyApiUrl
  else if ¬ c.apiUrl.startsWith "http://" ∧ ¬ c.apiUrl.startsWith "https://" then
    .error .apiUrlScheme
  else if c.namespace = "" then .error .emptyNamespace
  else if c.pipelinesApiVersion = "" then .error .emptyPipelinesApiVersion
  else if c.watch.maxAttempts = 0 then .error .noAttempts
  else if c.wait.pollInterval = 0 then .error .noPollInterval
  else if c.wait.timeout = 0 then .error .noTimeout
  else .ok ()

end Config

end PipelineObserver
