import PipelineObserver.Rehearsal.World
/-!
Processes: dialogues in the world of a rehearsal, told as steps that change the world at once and
pauses in between. A process can be suspended at each of its pauses.
-/
namespace PipelineObserver.Rehearsal

inductive Process (α : Type) where
  | done (result : α)
  -- Lets time pass.
  | pause (duration : Nat) (next : Process α)
  -- Changes the world, and goes on with what depends on the world as it was.
  | act (change : World → World) (next : World → Process α)

namespace Process

variable {α β : Type}

def bind : Process α → (α → Process β) → Process β
  | done a, f => f a
  | pause d next, f => pause d (bind next f)
  | act change next, f => act change fun w => bind (next w) f

instance : Monad Process where
  pure := done
  bind := bind

/-- A change of the world that has a result. -/
def perform (f : World → α × World) : Process α := act (fun w => (f w).2) fun w => done (f w).1

def wait (duration : Nat) : Process Unit := pause duration (done ())

def change (f : World → World) : Process Unit := act f fun _ => done ()

end Process

open Process

def serveSend (r : Request) : Process (Except Failure Response) := do
  match ← perform (·.receive r) with
  | .refused e => return .error e
  | .unscripted => return .ok (← perform fun w => (w.fallback r, w))
  | .scripted reply =>
    wait reply.delay
    change (·.change reply.changes)
    return reply.outcome

/-- The server's answer to the opening of a stream. Without a reply it is a stream that closes at
once. -/
def serveStream (r : Request) : Process (Except Failure StreamId) := do
  match ← perform (·.receiveStream r) with
  | .refused e => return .error e
  | .unscripted => return .ok (← perform (·.openStream []))
  | .scripted reply =>
    wait reply.delay
    change (·.change reply.changes)
    match reply.outcome with
    | .ok steps => return .ok (← perform (·.openStream steps))
    | .error e => return .error e

/-- Goes through the steps of a stream up to the first with a line or a failure. -/
def serveSteps (stream : StreamId) : List Step → Process (Except Failure (Option String))
  | [] => return .ok none
  | step :: rest => do
    wait step.idle
    change fun w => (w.change step.changes).leave stream rest
    match step.failure, step.line with
    | some e, _ => return .error e
    | none, some line => return .ok (some line)
    | none, none => serveSteps stream rest

def serve : (q : Question) → Process q.Answer
  | .send r => serveSend r
  | .openStream r => serveStream r
  | .readLine stream => do serveSteps stream (← perform fun w => (w.stepsOf stream, w))
  | .sleep duration => wait duration
  | .now => perform fun w => (w.clock, w)

/-- A dialogue as a process of the world. -/
def stage {α : Type} : Dialogue α → Process α
  | .done a => done a
  | .ask q next => (serve q).bind fun answer => stage (next answer)

end PipelineObserver.Rehearsal
