import PipelineObserver.Tracker.Basic
/-!
The logs of a pod's containers, fetched at once, a container after the other.
-/
namespace PipelineObserver

/-- The whole log of one container, or of a pod none of whose containers is known. -/
structure SourceLog where
  container : Option String
  text : String
  deriving DecidableEq

/-- The logs to read for a list of containers: each of them, or a single one without a name if none
is known. -/
def logSources (containers : List String) : List (Option String) :=
  if containers.isEmpty then [none] else containers.map some

/-- A pod whose containers are known. -/
structure PodLogs where
  config : Config
  pod : String
  containers : List String
  deriving DecidableEq

namespace PodLogs

/-- The request for the log of a container. -/
def request (l : PodLogs) : Option String → Request
  | none => .get (l.config.logPath l.pod)
  | some container => (Request.get (l.config.logPath l.pod)).withQuery "container" container

def fetch (l : PodLogs) (container : Option String) : Client SourceLog := do
  let response ← Client.send (l.request container)
  let response ← Client.ofExcept response.checked
  return ⟨container, response.body⟩

/-- The logs of the containers from a list of them. -/
def fetchEach (l : PodLogs) : List (Option String) → Client (List SourceLog)
  | [] => return []
  | source :: rest => do
    let log ← l.fetch source
    let logs ← l.fetchEach rest
    return log :: logs

/-- The logs of all containers, in their order. -/
def fetchAll (l : PodLogs) : Client (List SourceLog) := l.fetchEach (logSources l.containers)

end PodLogs

/-- A task run, whose logs are those of the pod that hosts its steps. -/
structure TaskRunLogs where
  config : Config
  taskRun : String
  deriving DecidableEq

namespace TaskRunLogs

def tracker (l : TaskRunLogs) : Tracker := ⟨l.config, .taskRun, l.taskRun⟩

/-- The logs of all steps, in their order; none if the task run does not exist or has no pod. -/
def fetchAll (l : TaskRunLogs) : Client (List SourceLog) := do
  match ← l.tracker.snapshot with
  | none => return []
  | some s =>
    match s.podReference with
    | none => return []
    | some pod => PodLogs.fetchAll ⟨l.config, pod, s.stepContainers⟩

end TaskRunLogs

/-- The texts of logs, one after the other. -/
def SourceLog.joined (logs : List SourceLog) : String := String.join (logs.map (·.text))

end PipelineObserver
