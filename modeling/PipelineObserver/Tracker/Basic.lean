import PipelineObserver.Api.Path
import PipelineObserver.Dialogue.Basic
import PipelineObserver.Json.Tree
import PipelineObserver.Resource.Document
/-!
Trackers: one named resource on the server. Every question about it is answered from a snapshot
fetched for that question; nothing is remembered between them.
-/
namespace PipelineObserver

/-- The answer itself if it is a success, and else the error that it stands for. -/
def Response.checked (r : Response) : Except Failure Response :=
  if r.isSuccess then .ok r else .error (.apiError r.status r.body)

/-- The snapshot that an answer holds; a resource that is not found has none. -/
def Response.snapshot? (k : Kind) (r : Response) : Except Failure (Option Snapshot) :=
  if r.status = 404 then .ok none
  else do
    let r ← r.checked
    match Json.parse? r.body with
    | none => .error .unreadableBody
    | some doc =>
      match Snapshot.ofDocument? k doc with
      | none => .error (.unexpectedDocument k.name)
      | some s => .ok (some s)

structure Tracker where
  config : Config
  kind : Kind
  name : String
  deriving DecidableEq

namespace Tracker

/-- Fetches a snapshot; there is none if the resource does not exist. -/
def snapshot (t : Tracker) : Client (Option Snapshot) := do
  let response ← Client.send (.get (t.config.resourcePath t.kind t.name))
  Client.ofExcept (response.snapshot? t.kind)

/-- Whether a snapshot shows the resource past its progress. One without a condition does not. -/
def isFinished (t : Tracker) (s : Snapshot) : Bool :=
  s.condition?.any fun c => !t.config.policy.isUnfinished c

/-- Whether the resource is past its progress, or gone. -/
def hasFinished (t : Tracker) : Client Bool := do
  return match ← t.snapshot with
    | some s => t.isFinished s
    | none => true

/-- The condition that counts, if there is one. -/
def condition? (t : Tracker) : Client (Option Condition) := do
  return (← t.snapshot).bind Snapshot.condition?

def status? (t : Tracker) : Client (Option ConditionStatus) := do
  return (← t.condition?).map (·.status)

def reason? (t : Tracker) : Client (Option String) := do
  return (← t.condition?).map (·.reason)

def lifecycle (t : Tracker) : Client Lifecycle := do
  return t.config.policy.lifecycle (← t.condition?)

def hasSucceeded (t : Tracker) : Client Bool := do
  return (← t.reason?).any t.config.policy.isSucceeded

def wasCancelled (t : Tracker) : Client Bool := do
  return (← t.reason?).any t.config.policy.isCancelled

def labels? (t : Tracker) : Client (Option (Table String)) := do
  return (← t.snapshot).map (·.labels)

def annotations? (t : Tracker) : Client (Option (Table String)) := do
  return (← t.snapshot).map (·.annotations)

end Tracker

end PipelineObserver
