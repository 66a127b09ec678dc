import PipelineObserver.Logs.Source
import PipelineObserver.Tracker.StartWait
/-!
Log lines as they are written, a container after the other, once the task run and its pod have
started. A stream that is cut after a long silence is opened again for the time since then; one that
closes earlier is complete.
-/
namespace PipelineObserver

/-- What must have started before logs can be read. -/
inductive LogGate where
  -- A task run, whose snapshot then names the pod.
  | taskRun (wait : StartWait)
  | pod (wait : StartWait)
  -- The named pod can be read.
  | opened (pod : String)
  deriving DecidableEq

/-- The place reached in the log of a container. -/
structure LogCursor where
  container : Option String
  -- How many seconds back the next stream begins; the whole log if not given.
  since : Option Nat := none
  -- The open stream, if there is one.
  stream : Option StreamId := none
  -- When the stream was asked for, or delivered its last line.
  lastActivity : Nat
  deriving DecidableEq

structure LogLines where
  config : Config
  gate : LogGate
  -- The sources after the one being read.
  pending : List (Option String) := []
  cursor : Option LogCursor := none
  finished : Bool := false
  deriving DecidableEq

namespace LogLines

/-- The lines yield a line, or nothing once every container is done or what they wait for never
started. -/
abbrev Outcome := Turn LogLines (Except Failure (Option String))

def ended (l : LogLines) : LogLines := { l with finished := true }

/-- The request for a stream from the place of a cursor. -/
def request (l : LogLines) (pod : String) (c : LogCursor) : Request :=
  let r := ((Request.get (l.config.logPath pod)).withQuery "follow" "true").withHeader
    "Connection" "close"
  let r := match c.container with
    | some container => r.withQuery "container" container
    | none => r
  match c.since with
  | some seconds => r.withQuery "sinceSeconds" (toString seconds)
  | none => r

/-- What follows at a given time from the end of a stream, or from one that could not be opened.
After a silence shorter than the configured one the container is done; else its log goes on from one
second after the last activity, in whole seconds. -/
def disconnected (l : LogLines) (c : LogCursor) (time : Nat) : LogLines :=
  let idle := time - c.lastActivity
  if idle < l.config.logs.minIdleTimeout then { l with cursor := none }
  else { l with cursor := some { c with stream := none, since := some ((idle - 1000) / 1000) } }

/-- What follows at a given time from a failure of a stream. -/
def interrupted (l : LogLines) (c : LogCursor) (e : Failure) (time : Nat) : Outcome :=
  if e.isTransient then .again (l.disconnected c time) else .yield (.error e) l.ended

/-- One turn at the gate of the task run. -/
def awaitTaskRun (l : LogLines) (w : StartWait) : Dialogue Outcome := do
  match ← w.turn with
  | .again w => return .again { l with gate := .taskRun w }
  | .yield (.error e) w => return .yield (.error e) { l with gate := .taskRun w.restart }
  | .yield (.ok none) _ => return .yield (.ok none) l.ended
  | .yield (.ok (some s)) _ =>
    match s.podReference with
    | none => return .yield (.ok none) l.ended
    | some pod =>
      let tracker : Tracker := ⟨l.config, .pod, pod⟩
      return .again
        { l with pending := logSources s.stepContainers, gate := .pod tracker.waitForStart }

/-- One turn at the gate of the pod. -/
def awaitPod (l : LogLines) (w : StartWait) : Dialogue Outcome := do
  match ← w.turn with
  | .again w => return .again { l with gate := .pod w }
  | .yield (.error e) w => return .yield (.error e) { l with gate := .pod w.restart }
  | .yield (.ok none) _ => return .yield (.ok none) l.ended
  | .yield (.ok (some _)) w => return .again { l with gate := .opened w.channel.target.name }

/-- Opens a stream from the place of a cursor. -/
def openStream (l : LogLines) (pod : String) (c : LogCursor) : Dialogue Outcome := do
  let c := { c with lastActivity := ← Dialogue.now }
  match ← Dialogue.openStream (l.request pod c) with
  | .ok stream => return .again { l with cursor := some { c with stream := some stream } }
  | .error e => return l.interrupted c e (← Dialogue.now)

def readLine (l : LogLines) (c : LogCursor) (stream : StreamId) : Dialogue Outcome := do
  match ← Dialogue.readLine stream with
  | .ok (some line) =>
    let time ← Dialogue.now
    return .yield (.ok (some line)) { l with cursor := some { c with lastActivity := time } }
  | .ok none => return .again (l.disconnected c (← Dialogue.now))
  | .error e => return l.interrupted c e (← Dialogue.now)

def read (l : LogLines) (pod : String) : Dialogue Outcome :=
  match l.cursor, l.pending with
  | some c, _ =>
    match c.stream with
    | some stream => l.readLine c stream
    | none => l.openStream pod c
  | none, [] => return .yield (.ok none) l.ended
  | none, container :: rest => do
    let time ← Dialogue.now
    return .again
      { l with pending := rest, cursor := some { container := container, lastActivity := time } }

def turn (l : LogLines) : Dialogue Outcome :=
  if l.finished then return .yield (.ok none) l
  else
    match l.gate with
    | .taskRun w => l.awaitTaskRun w
    | .pod w => l.awaitPod w
    | .opened pod => l.read pod

end LogLines

/-- The lines of all containers of a pod, once it has started. -/
def PodLogs.stream (l : PodLogs) : LogLines where
  config := l.config
  gate := .pod (Tracker.waitForStart ⟨l.config, .pod, l.pod⟩)
  pending := logSources l.containers

/-- The lines of all steps of a task run, once it and its pod have started. -/
def TaskRunLogs.stream (l : TaskRunLogs) : LogLines where
  config := l.config
  gate := .taskRun l.tracker.waitForStart

end PipelineObserver
