import PipelineObserver.Logs.Lines
import PipelineObserver.Proofs.Surroundings
import PipelineObserver.Text.Digit
/-!
A server that keeps the log of each container of a started pod. A stream that follows a log delivers
at once what was written before, from the time asked for on, and each later line when it is written.
When the streams end is a plan of the server's own, which takes one end after the other.
-/
namespace PipelineObserver

/-- A line in a log, and when it was written. -/
structure LogLine where
  time : Nat
  text : String
  deriving DecidableEq

/-- When a stream ends, and the failure of the network that ends it unless the server closes it. -/
structure StreamEnd where
  time : Nat
  broken : Option String := none
  deriving DecidableEq

/-- What is read at the end of a stream. -/
def StreamEnd.answer (e : StreamEnd) : Except Failure (Option String) :=
  match e.broken with
  | none => .ok none
  | some detail => .error (.connection detail)

/-- An open stream: the lines that it has still to deliver, and its end. -/
structure Delivery where
  lines : List LogLine
  ending : StreamEnd

/-- A pod that has started, with a notice of its watch and the answer to a look-up that shows it. -/
structure StartedPod where
  config : Config
  name : String
  notice : String
  document : Response
  snapshot : Snapshot
  announced : WatchChannel.announces notice = true
  shown : document.snapshot? .pod = .ok (some snapshot)
  started : snapshot.hasStarted = true

structure LogServer where
  clock : Nat
  logs : Option String → List LogLine
  -- The ends of the streams of logs that will be opened, the next one first.
  plan : List StreamEnd
  -- How many streams were opened.
  opened : Nat := 0
  streams : StreamId → Delivery := fun _ => ⟨[], ⟨0, none⟩⟩

namespace LogServer

/-- The time from which on a stream opened at a given time delivers. -/
def start (since : Option Nat) (time : Nat) : Nat :=
  match since with
  | some seconds => time - seconds * 1000
  | none => 0

/-- The seconds that a request asks for. -/
def sinceOf (r : Request) : Option Nat :=
  (r.queryValue? "sinceSeconds").bind fun text => Text.decimal? text.toList

def setStream (s : LogServer) (id : StreamId) (d : Delivery) : LogServer :=
  { s with streams := fun other => if other = id then d else s.streams other }

def openStream (s : LogServer) (d : Delivery) : StreamId × LogServer :=
  (s.opened, { s.setStream s.opened d with opened := s.opened + 1 })

/-- Opens a stream that follows the log which a request asks for, until its planned end. -/
def follow (s : LogServer) (r : Request) : StreamId × LogServer :=
  let ending := s.plan.headD ⟨s.clock, none⟩
  let lines := (s.logs (r.queryValue? "container")).filter fun x =>
    start (sinceOf r) s.clock ≤ x.time ∧ x.time ≤ ending.time
  { s with plan := s.plan.tail }.openStream ⟨lines, ending⟩

/-- Waits for the next line of a stream, or for its end. -/
def readLine (s : LogServer) (id : StreamId) : Except Failure (Option String) × LogServer :=
  let d := s.streams id
  match d.lines with
  | x :: rest =>
    (.ok (some x.text), { s.setStream id ⟨rest, d.ending⟩ with clock := max s.clock x.time })
  | [] => (d.ending.answer, { s with clock := max s.clock d.ending.time })

/-- The answer to a request for something that is not there. -/
def absent : Response := ⟨404, "not found"⟩

/-- The surroundings of a client that reads the logs of a pod. Nothing but lines and the ends of
streams takes time. -/
def surroundings (pod : StartedPod) : Surroundings LogServer where
  answer
    | .send r, s =>
      (.ok (if r = .get (pod.config.resourcePath .pod pod.name) then pod.document else absent), s)
    | .openStream r, s =>
      if r.path = pod.config.logPath pod.name ∧ r.queryValue? "follow" = some "true" then
        let (id, s) := s.follow r
        (.ok id, s)
      else if r.path = pod.config.watchPath .pod pod.name then
        let (id, s) := s.openStream ⟨[⟨s.clock, pod.notice⟩], ⟨s.clock, none⟩⟩
        (.ok id, s)
      else (.error (.apiError absent.status absent.body), s)
    | .readLine id, s => s.readLine id
    | .sleep duration, s => ((), { s with clock := s.clock + duration })
    | .now, s => (s.clock, s)

end LogServer

end PipelineObserver
