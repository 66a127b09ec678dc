import PipelineObserver.Dialogue.Basic
import PipelineObserver.Http.Wire
import Std.Async.DNS
import Std.Async.TCP
/-!
Connections of this machine, over which requests are sent and answers received. How a request is
written and an answer read is decided elsewhere. Only connections without encryption are made.
-/
namespace PipelineObserver.Http

open Std.Async

/-- An open connection on which a body is being received. -/
structure Incoming where
  socket : TCP.Socket.Client
  place : BodyPlace
  -- The bytes of the body that were received and not yet used.
  buffer : List UInt8

/-- The server, with the streams that are open. -/
structure Link where
  transport : Transport
  streams : IO.Ref (Array Incoming)

/-- The next bytes of a connection; there are none at its end. -/
def receive (socket : TCP.Socket.Client) : IO (Option (List UInt8)) := do
  try
    return (← (socket.recv? 65536).block).map (·.toList)
  catch _ => return none

def connect (a : Address) : IO TCP.Socket.Client := do
  let host := String.ofList (a.host.toList.filter fun c => c ≠ '[' ∧ c ≠ ']')
  let found ← (DNS.getAddrInfo host "").block
  match found[0]? with
  | none => throw (IO.userError "no such host")
  | some ip =>
    let socket ← TCP.Socket.Client.mk
    let service := a.serviceNumber.toUInt16
    let target : Std.Net.SocketAddress := match ip with
      | .v4 addr => .v4 ⟨addr, service⟩
      | .v6 addr => .v6 ⟨addr, service⟩
    (socket.connect target).block
    return socket

/-- Receives a head, and what follows it in the same bytes. -/
partial def receiveHead (socket : TCP.Socket.Client) (buffer : List UInt8) :
    IO (Option (Head × List UInt8)) := do
  match splitHead? buffer with
  | some (head, rest) => return (Head.ofBytes? head).map (·, rest)
  | none =>
    match ← receive socket with
    | none => return none
    | some bytes => receiveHead socket (buffer ++ bytes)

partial def receiveBody (body : Incoming) : IO Delivery := do
  if body.place.isOver then return ⟨[body.buffer], body.place.isComplete⟩
  else
    match ← receive body.socket with
    | none => return ⟨[body.buffer], body.place.isComplete⟩
    | some bytes =>
      let (found, place) := body.place.read bytes
      receiveBody { body with place := place, buffer := body.buffer ++ found }

/-- Sends a message and receives the head of the answer. -/
def exchange (m : Message) : IO (Option (Head × Incoming)) := do
  if m.address.secure then return none
  try
    let socket ← connect m.address
    (socket.send m.render.toUTF8).block
    match ← receiveHead socket [] with
    | none => return none
    | some (head, rest) =>
      let (found, place) := (BodyPlace.ofHead head).read rest
      return some (head, ⟨socket, place, found⟩)
  catch _ => return none

/-- What comes back for a message, in full. -/
def arrival : Option (Head × Incoming) → IO Arrival
  | none => return .hungUp
  | some (head, incoming) => do
    return .answered head.status (head.get? "content-type") (← receiveBody incoming)

namespace Link

/-- Sends a request and receives the whole answer. -/
def send (link : Link) (r : Request) : IO (Except Failure Response) := do
  match link.transport.message? r with
  | none => return .error Transport.broken
  | some m =>
    let arrived ← arrival (← exchange m)
    return link.transport.send (fun _ => arrived) r

/-- Sends a request whose answer is a stream of lines. -/
def openStream (link : Link) (r : Request) : IO (Except Failure StreamId) := do
  match link.transport.message? r with
  | none => return .error Transport.broken
  | some m =>
    match ← exchange m with
    | some (head, incoming) =>
      if 200 ≤ head.status ∧ head.status < 300 then
        link.streams.modifyGet fun streams => (.ok streams.size, streams.push incoming)
      else
        let arrived ← arrival (some (head, incoming))
        return (link.transport.openStream (fun _ => arrived) r).map fun _ => 0
    | none => return .error Transport.lost

end Link

/-- Receives until there is a line or the body ends. -/
partial def receiveLine (body : Incoming) : IO (Except Failure (Option String) × Incoming) := do
  match splitLine? body.buffer with
  | some (line, rest) => return ((decodeLine line).map some, { body with buffer := rest })
  | none =>
    let received ← if body.place.isOver then pure none else receive body.socket
    match received with
    | some bytes =>
      let (found, place) := body.place.read bytes
      receiveLine { body with place := place, buffer := body.buffer ++ found }
    | none =>
      let (result, rest) := LineSplitter.atEnd body.buffer body.place.isComplete
      return (result, { body with buffer := rest.buffer })

def Link.readLine (link : Link) (stream : StreamId) : IO (Except Failure (Option String)) := do
  match (← link.streams.get)[stream]? with
  | none => return .ok none
  | some body =>
    let (result, body) ← receiveLine body
    link.streams.modify fun streams => streams.setIfInBounds stream body
    return result

end PipelineObserver.Http
