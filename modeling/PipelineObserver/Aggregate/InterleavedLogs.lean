import PipelineObserver.Logs.Lines
import PipelineObserver.Tracker.PipelineRun
/-!
The log lines of all task runs of a pipeline run, one line of each in turn. The task runs are
discovered meanwhile by another activity, which sends them here batch by batch; a batch joins in
when a pass over the streams is over. Sending and reading may interleave in any way.
-/
namespace PipelineObserver

structure TaskStream where
  task : String
  lines : LogLines
  deriving DecidableEq

/-- Task runs found together, or the failure that ended the discovery. -/
abbrev ChildBatch := Except Failure (List ChildReference)

structure InterleavedLogs where
  config : Config
  -- The batches that were sent and are not yet received.
  inbox : List ChildBatch := []
  -- No batch will be sent any more.
  senderGone : Bool := false
  -- Batches are still expected.
  discovering : Bool := true
  -- The streams that have not ended, the next one first.
  active : List TaskStream := []
  -- How many streams are left in the current pass.
  rotation : Nat := 0
  -- The stream that is being asked for a line.
  pulled : Option TaskStream := none

/-- One turn of an activity that may have to wait for what another one sends. -/
inductive ReceiverTurn (σ α : Type) where
  | turned (turn : Turn σ α)
  -- Nothing can be done before something is sent.
  | waiting (state : σ)

namespace InterleavedLogs

/-- The lines are yielded with the names of their tasks; nothing is yielded once no stream remains
and no task run will be found any more. -/
abbrev Outcome := Turn InterleavedLogs (Except Failure (Option (String × String)))

def deliver (s : InterleavedLogs) (batch : ChildBatch) : InterleavedLogs :=
  { s with inbox := s.inbox ++ [batch] }

def hangUp (s : InterleavedLogs) : InterleavedLogs := { s with senderGone := true }

/-- The streams of newly found task runs come last. -/
def start (s : InterleavedLogs) (children : List ChildReference) : InterleavedLogs :=
  { s with
    active := s.active ++ children.map fun child =>
      ⟨child.taskName, TaskRunLogs.stream ⟨s.config, child.name⟩⟩ }

/-- Starts the streams of the batches of an inbox, up to the first failure, which is given back. -/
def receive (s : InterleavedLogs) : List ChildBatch → Option Failure × InterleavedLogs
  | [] => (none, { s with inbox := [], discovering := s.discovering && !s.senderGone })
  | .ok children :: rest => (s.start children).receive rest
  | .error e :: rest => (some e, { s with inbox := rest })

/-- Starts the streams of all batches received so far, unless the discovery is known to be over. -/
def receiveAll (s : InterleavedLogs) : Option Failure × InterleavedLogs :=
  if s.discovering then s.receive s.inbox else (none, s)

/-- A turn that may have to wait for the discovery. -/
abbrev Advance := ReceiverTurn InterleavedLogs (Except Failure (Option (String × String)))

/-- What is done between two streams: at the end of a pass new streams join in, and the next stream
is pulled. -/
def advance (s : InterleavedLogs) : Advance :=
  let (failure, s) := if s.rotation = 0 then s.receiveAll else (none, s)
  match failure with
  | some e => .turned (.yield (.error e) s)
  | none =>
    let rotation := if s.rotation = 0 then s.active.length else s.rotation
    match s.active with
    | stream :: rest =>
      .turned (.again
        { s with active := rest, rotation := rotation - 1, pulled := some stream })
    | [] => if s.discovering then .waiting s else .turned (.yield (.ok none) s)

/-- One turn of the stream that is being asked for a line. One that gave a line goes to the end; one
that ended or failed leaves. -/
def pull (s : InterleavedLogs) (stream : TaskStream) : Dialogue Outcome := do
  match ← stream.lines.turn with
  | .again l => return .again { s with pulled := some { stream with lines := l } }
  | .yield (.ok (some line)) l =>
    return .yield (.ok (some (stream.task, line)))
      { s with pulled := none, active := s.active ++ [{ stream with lines := l }] }
  | .yield (.ok none) _ => return .again { s with pulled := none }
  | .yield (.error e) _ => return .yield (.error e) { s with pulled := none }

def turn (s : InterleavedLogs) : Dialogue Advance :=
  match s.pulled with
  | some stream => return .turned (← s.pull stream)
  | none => return s.advance

end InterleavedLogs

/-- The lines of the task runs of a pipeline run. The discovery that belongs to them is
`watchNewChildren`. -/
def PipelineRun.interleavedLogs (p : PipelineRun) : InterleavedLogs := { config := p.config }

end PipelineObserver
