import PipelineObserver.Text.Blank
import PipelineObserver.Tracker.Basic
import PipelineObserver.Watch.Event
/-!
Watch channels: the changes of one resource, told by snapshots that are fetched after each event of
the server's watch stream. What an event says beyond its arrival is not used. A channel connects
again after the server closed the stream, with a pause before each further connection, until its
connections are used up; it fails when the server rejected it too often or an answer cannot be read.
-/
namespace PipelineObserver

inductive WatchItem where
  -- The snapshot fetched after an event.
  | snapshot (s : Snapshot)
  -- The resource was not found after an event.
  | absent
  -- The network failed, so that nothing is known.
  | unknown
  deriving DecidableEq

inductive WatchState where
  | connecting
  | streaming
  -- Waiting before the next connection.
  | backoff
  -- All connections are used up.
  | exhausted
  | failed
  deriving DecidableEq

namespace WatchState

def name : WatchState → String
  | connecting => "Connecting"
  | streaming => "Streaming"
  | backoff => "Backoff"
  | exhausted => "Exhausted"
  | failed => "Failed"

end WatchState

structure WatchChannel where
  target : Tracker
  state : WatchState := .connecting
  -- The connections tried so far.
  attempts : Nat := 0
  -- The requests rejected so far.
  badResponses : Nat := 0
  -- The stream of the connection that is open.
  stream : Option StreamId := none
  deriving DecidableEq

namespace WatchChannel

def settings (ch : WatchChannel) : WatchSettings := ch.target.config.watch

def request (ch : WatchChannel) : Request :=
  (Request.get (ch.target.config.watchPath ch.target.kind ch.target.name)).withHeader
    "Connection" "close"

/-- The channel without its connection: it backs off, or is at its end. -/
def disconnected (ch : WatchChannel) : WatchChannel :=
  { ch with
    stream := none
    state := if ch.settings.maxAttempts ≤ ch.attempts then .exhausted else .backoff }

/-- The channel without its connection, after a failure that ends it. -/
def fail (ch : WatchChannel) : WatchChannel := { ch with stream := none, state := .failed }

/-- What a turn of a channel yields: an item, nothing at its end, or the failure that ends it. -/
abbrev Outcome := Turn WatchChannel (Except Failure (Option WatchItem))

/-- What follows from the answer to a connection. -/
def connected (ch : WatchChannel) : Except Failure StreamId → Outcome
  | .ok stream => .again { ch with stream := some stream, state := .streaming }
  | .error e =>
    if e.isTransient then .yield (.ok (some .unknown)) ch.disconnected
    else
      let ch := { ch with badResponses := ch.badResponses + 1 }
      if ch.settings.maxBadResponses ≤ ch.badResponses then
        .yield (.error e) { ch with state := .failed }
      else .again ch.disconnected

/-- What follows from the snapshot asked for after an event. -/
def notified (ch : WatchChannel) : Except Failure (Option Snapshot) → Outcome
  | .ok (some s) => .yield (.ok (some (.snapshot s))) ch
  | .ok none => .yield (.ok (some .absent)) ch
  | .error e =>
    if e.isTransient then .yield (.ok (some .unknown)) ch
    else .yield (.error e) ch.fail

def announces (line : String) : Bool :=
  !Text.isAllBlank line && (WatchEvent.ofLine line).isOk

def turn (ch : WatchChannel) : Dialogue Outcome :=
  match ch.state with
  | .connecting => do
    let ch := { ch with attempts := ch.attempts + 1 }
    return ch.connected (← Dialogue.openStream ch.request)
  | .streaming =>
    match ch.stream with
    | none => return .again ch.disconnected
    | some stream => do
      match ← Dialogue.readLine stream with
      | .ok (some line) =>
        if announces line then return ch.notified (← ch.target.snapshot.run)
        else return .again ch
      | .ok none => return .again ch.disconnected
      | .error e =>
        return if e.isTransient then .again ch.disconnected else .yield (.error e) ch.fail
  | .backoff => do
    Dialogue.sleep ch.settings.retryDelay
    return .again { ch with state := .connecting }
  | .exhausted | .failed => return .yield (.ok none) ch

end WatchChannel

def Tracker.watch (t : Tracker) : WatchChannel := { target := t }

end PipelineObserver
