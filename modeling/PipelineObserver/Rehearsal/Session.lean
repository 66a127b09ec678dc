import PipelineObserver.Aggregate.InterleavedLogs
import PipelineObserver.Rehearsal.Process
/-!
Sessions: activities of a client in the world of a rehearsal. One activity is in the foreground; the
discoveries of task runs that interleaved logs need go on in the background. They share one thread:
the background works only while the foreground waits, and time passes only while everything waits.
-/
namespace PipelineObserver.Rehearsal

/-- The process of one turn of a discovery. -/
abbrev DiscoveryTurn := Process ChildWatch.Outcome

structure Discovery where
  name : Nat
  -- The time at which it goes on, and how; absent if it is over.
  suspended : Option (Nat × DiscoveryTurn)
  -- The batches that were sent and not yet fetched.
  sent : List ChildBatch := []

structure Session where
  world : World
  discoveries : List Discovery := []
  -- The name of the next discovery.
  fresh : Nat := 0

/-- How many turns an activity may take before it is given up. -/
def patience : Nat := 1000000000

/-- Runs a process until it is done or has to wait. -/
def runSlice {α : Type} : Process α → World → (α ⊕ (Nat × Process α)) × World
  | .done a, w => (.inl a, w)
  | .pause 0 next, w => runSlice next w
  | .pause (d + 1) next, w => (.inr (w.clock + (d + 1), next), w)
  | .act change next, w => runSlice (next w) (change w)

namespace Discovery

def ofWatch (name time : Nat) (watch : ChildWatch) : Discovery :=
  { name := name, suspended := some (time, stage watch.turn) }

/-- Runs a discovery until it has to wait or ends. It ends with its watch, and after a failure. -/
def run (d : Discovery) (turn : DiscoveryTurn) (w : World) : Nat → Discovery × World
  | 0 => ({ d with suspended := none }, w)
  | fuel + 1 =>
    match runSlice turn w with
    | (.inr suspended, w) => ({ d with suspended := some suspended }, w)
    | (.inl (.again watch), w) => d.run (stage watch.turn) w fuel
    | (.inl (.yield (.ok none) _), w) => ({ d with suspended := none }, w)
    | (.inl (.yield (.error e) _), w) =>
      ({ d with suspended := none, sent := d.sent ++ [Except.error e] }, w)
    | (.inl (.yield (.ok (some children)) watch), w) =>
      { d with sent := d.sent ++ [Except.ok children] }.run (stage watch.turn) w fuel

def wakes (d : Discovery) : Option Nat := d.suspended.map (·.1)

/-- Runs a discovery if its time has come. -/
def runIfDue (d : Discovery) (w : World) : Discovery × World :=
  match d.suspended with
  | some (time, turn) => if time ≤ w.clock then d.run turn w patience else (d, w)
  | none => (d, w)

end Discovery

namespace Session

/-- Runs discoveries whose time has come, one after the other. -/
def runDiscoveries : List Discovery → World → List Discovery × World
  | [], w => ([], w)
  | d :: rest, w =>
    let (d, w) := d.runIfDue w
    let (rest, w) := runDiscoveries rest w
    (d :: rest, w)

def runDue (s : Session) : Session :=
  let (discoveries, world) := runDiscoveries s.discoveries s.world
  { s with discoveries := discoveries, world := world }

/-- The next time at which a discovery goes on. -/
def nextWake (s : Session) : Option Nat := (s.discoveries.filterMap (·.wakes)).min?

def setClock (s : Session) (time : Nat) : Session := { s with world := { s.world with clock := time } }

/-- Waits until a given time. Of what happens at that very time, the foreground comes first. -/
def sleepUntil (s : Session) (time : Nat) : Nat → Session
  | 0 => s.setClock time
  | fuel + 1 =>
    let s := s.runDue
    match s.nextWake with
    | some wake => if wake < time then (s.setClock wake).sleepUntil time fuel else s.setClock time
    | none => s.setClock time

def discovery? (s : Session) (name : Nat) : Option Discovery := s.discoveries.find? (·.name = name)

/-- Whether a discovery has sent something or is over. -/
def hasNews (s : Session) (name : Nat) : Bool :=
  match s.discovery? name with
  | some d => !d.sent.isEmpty || d.suspended.isNone
  | none => true

/-- Waits until a discovery has sent something or is over. -/
def awaitNews (s : Session) (name : Nat) : Nat → Session
  | 0 => s
  | fuel + 1 =>
    let s := s.runDue
    if s.hasNews name then s
    else
      match s.nextWake with
      | some wake => (s.setClock (max wake s.world.clock)).awaitNews name fuel
      | none => s

def run {α : Type} : Process α → Session → α × Session
  | .done a, s => (a, s)
  | .pause 0 next, s => run next s
  | .pause (d + 1) next, s => run next (s.sleepUntil (s.world.clock + (d + 1)) patience)
  | .act change next, s => run (next s.world) { s with world := change s.world }

def hold {α : Type} (d : Dialogue α) (s : Session) : α × Session := run (stage d) s

def settle {σ α : Type} (turn : σ → Dialogue (Turn σ α)) (state : σ) (s : Session) :
    Nat → Option (α × σ) × Session
  | 0 => (none, s)
  | fuel + 1 =>
    match s.hold (turn state) with
    | (.again state, s) => settle turn state s fuel
    | (.yield a state, s) => (some (a, state), s)

/-- Begins a discovery, which first runs when the foreground waits. -/
def beginDiscovery (s : Session) (watch : ChildWatch) : Nat × Session :=
  (s.fresh,
    { s with
      fresh := s.fresh + 1
      discoveries := s.discoveries ++ [.ofWatch s.fresh s.world.clock watch] })

/-- Ends a discovery, whatever it is doing. -/
def endDiscovery (s : Session) (name : Nat) : Session :=
  { s with discoveries := s.discoveries.filter (·.name ≠ name) }

/-- Hands what a discovery has sent to the logs that it belongs to. -/
def fetchNews (s : Session) (name : Nat) (logs : InterleavedLogs) : InterleavedLogs × Session :=
  match s.discovery? name with
  | none => (logs.hangUp, s)
  | some d =>
    let logs := d.sent.foldl InterleavedLogs.deliver logs
    (if d.suspended.isNone then logs.hangUp else logs,
      { s with
        discoveries := s.discoveries.map fun e => if e.name = name then { e with sent := [] } else e })

def settleLogs (name : Nat) (logs : InterleavedLogs) (s : Session) :
    Nat → Option (Except Failure (Option (String × String)) × InterleavedLogs) × Session
  | 0 => (none, s)
  | fuel + 1 =>
    let (logs, s) := s.fetchNews name logs
    match s.hold logs.turn with
    | (.turned (.again logs), s) => settleLogs name logs s fuel
    | (.turned (.yield a logs), s) => (some (a, logs), s)
    | (.waiting logs, s) => settleLogs name logs (s.awaitNews name patience) fuel

end Session

/-- A sequence that was opened and is read item by item. -/
inductive Sequence where
  | watch (channel : WatchChannel)
  | children (watch : ChildWatch)
  | lines (lines : LogLines)
  -- Interleaved logs and the name of their discovery.
  | interleaved (logs : InterleavedLogs) (discovery : Nat)

inductive Item where
  | watch (item : WatchItem)
  | children (found : List ChildReference)
  | line (text : String)
  | taskLine (task text : String)

/-- What asking a sequence for its next item comes to. -/
inductive Pulled where
  | item (item : Item)
  | ended
  | failed (e : Failure)
  -- No end was in sight.
  | stalled

namespace Sequence

def outcome {α : Type} (item : α → Item) : Except Failure (Option α) → Pulled
  | .ok (some a) => .item (item a)
  | .ok none => .ended
  | .error e => .failed e

def next (q : Sequence) (s : Session) : Pulled × Sequence × Session :=
  match q with
  | .watch ch =>
    match Session.settle WatchChannel.turn ch s patience with
    | (some (r, ch), s) => (outcome .watch r, .watch ch, s)
    | (none, s) => (.stalled, q, s)
  | .children w =>
    match Session.settle ChildWatch.turn w s patience with
    | (some (r, w), s) => (outcome .children r, .children w, s)
    | (none, s) => (.stalled, q, s)
  | .lines l =>
    match Session.settle LogLines.turn l s patience with
    | (some (r, l), s) => (outcome .line r, .lines l, s)
    | (none, s) => (.stalled, q, s)
  | .interleaved logs name =>
    match Session.settleLogs name logs s patience with
    | (some (r, logs), s) =>
      (outcome (fun (task, text) => .taskLine task text) r, .interleaved logs name, s)
    | (none, s) => (.stalled, q, s)

/-- Asks for items until the sequence ends or fails, but for no more than a number of them. -/
def drain (q : Sequence) (s : Session) : Nat → List Item × Option Pulled × Sequence × Session
  | 0 => ([], none, q, s)
  | n + 1 =>
    match q.next s with
    | (.item i, q, s) =>
      let (items, last, q, s) := q.drain s n
      (i :: items, last, q, s)
    | (last, q, s) => ([], some last, q, s)

/-- Drops a sequence, with the discovery that belongs to it. -/
def close (q : Sequence) (s : Session) : Session :=
  match q with
  | .interleaved _ name => s.endDiscovery name
  | .watch _ | .children _ | .lines _ => s

end Sequence

/-- The requests seen, in their order, each with the number of times that it came in a row. -/
def World.sightings (w : World) : List (Sighting × Nat) :=
  w.seen.foldl (fun found s =>
    match found with
    | (first, times) :: rest =>
      if first = s then (first, times + 1) :: rest else (s, 1) :: found
    | [] => [(s, 1)]) []

def World.unseen (w : World) : World := { w with seen := [] }

end PipelineObserver.Rehearsal
