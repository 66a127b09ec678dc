import PipelineObserver.Dialogue.Basic
import PipelineObserver.Rehearsal.Script
/-!
The world of a rehearsal: a clock, the stored documents, what is left of the script, and the
requests that were seen.
-/
namespace PipelineObserver.Rehearsal

structure Sighting where
  request : Request
  -- It was the opening of a stream.
  stream : Bool
  deriving DecidableEq

structure World where
  clock : Nat := 0
  documents : Table String := []
  replies : List Reply := []
  streams : List StreamReply := []
  -- The streams that were opened, with the steps that are left of them.
  opened : List (StreamId × List Step) := []
  -- How many more requests the server admits.
  admissible : Nat
  -- The failures of the requests that do not even reach the server.
  lost : Request → Option Failure := fun _ => none
  -- The requests seen, the latest first.
  seen : List Sighting := []

namespace World

/-- Takes the first element with a property out of a list. -/
def takeFirst {α : Type} (p : α → Bool) : List α → Option (α × List α)
  | [] => none
  | a :: rest =>
    if p a then some (a, rest)
    else (takeFirst p rest).map fun (found, others) => (found, a :: others)

/-- What a server that admits no more requests answers. -/
def overrun : Failure := .parseError "scripted: too many requests"

/-- The answer to a request for which the script has no reply. -/
def fallback (w : World) (r : Request) : Response :=
  match r.method, Table.get? r.path w.documents with
  | .get, some text => ⟨200, text⟩
  | _, _ => ⟨404, r.path ++ " not found"⟩

inductive Reception (α : Type) where
  -- There is no answer but a failure.
  | refused (e : Failure)
  | scripted (reply : α)
  | unscripted

/-- Sends a request on its way. One that is lost, or is one too many, is not seen. -/
def accept (w : World) (s : Sighting) : Except Failure World :=
  match w.lost s.request with
  | some e => .error e
  | none =>
    match w.admissible with
    | 0 => .error overrun
    | n + 1 => .ok { w with admissible := n, seen := s :: w.seen }

/-- The arrival of a request that is answered at once. -/
def receive (w : World) (r : Request) : Reception Reply × World :=
  match w.accept ⟨r, false⟩ with
  | .error e => (.refused e, w)
  | .ok w =>
    match takeFirst (fun reply => reply.method = r.method ∧ reply.path = r.path) w.replies with
    | some (reply, rest) => (.scripted reply, { w with replies := rest })
    | none => (.unscripted, w)

/-- The arrival of a request for a stream. -/
def receiveStream (w : World) (r : Request) : Reception StreamReply × World :=
  match w.accept ⟨r, true⟩ with
  | .error e => (.refused e, w)
  | .ok w =>
    match takeFirst (fun reply => reply.path = r.path) w.streams with
    | some (reply, rest) => (.scripted reply, { w with streams := rest })
    | none => (.unscripted, w)

/-- The world after some changes of its documents. -/
def change (w : World) (changes : Changes) : World :=
  { w with documents := changes.applyTo w.documents }

def openStream (w : World) (steps : List Step) : StreamId × World :=
  (w.opened.length, { w with opened := (w.opened.length, steps) :: w.opened })

def stepsOf (w : World) (stream : StreamId) : List Step := (w.opened.lookup stream).getD []

def leave (w : World) (stream : StreamId) (steps : List Step) : World :=
  { w with opened := w.opened.map fun (s, old) => if s = stream then (s, steps) else (s, old) }

end World

end PipelineObserver.Rehearsal
