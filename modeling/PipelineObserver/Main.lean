import PipelineObserver.Aggregate.InterleavedLogs
import PipelineObserver.CommandLine.Invocation
import PipelineObserver.CommandLine.Report
import PipelineObserver.Http.Connection
/-!
The program: an invocation carried out over the network and the clock of this machine. What is asked
of the server and what is printed is decided elsewhere; here the questions are put and the texts are
printed.
-/
namespace PipelineObserver.Console

open Http

/-- Sleeps for a number of milliseconds, however many. -/
partial def sleep (duration : Nat) : IO Unit := do
  let most := 86400000
  if duration ≤ most then IO.sleep duration.toUInt32
  else
    IO.sleep most.toUInt32
    sleep (duration - most)

/-- Puts a question to the server or to the clock. -/
def put (link : Link) : (q : Question) → IO q.Answer
  | .send r => link.send r
  | .openStream r => link.openStream r
  | .readLine stream => link.readLine stream
  | .sleep duration => sleep duration
  | .now => IO.monoMsNow

def hold {α : Type} (link : Link) : Dialogue α → IO α
  | .done a => return a
  | .ask q next => do hold link (next (← put link q))

def print (text : String) : IO Unit := do
  let out ← IO.getStdout
  out.putStr text
  out.flush

def give (link : Link) (r : Report Unit) : IO (Except CommandError Unit) := do
  let (result, printed) ← hold link (r.run.run "")
  print printed
  return result

/-- What a discovery has sent, and whether it is over. -/
structure Post where
  sent : List ChildBatch := []
  ended : Bool := false

/-- Finds task runs and sends them, until there are no more or a failure. -/
partial def discover (link : Link) (post : IO.Ref Post) (w : ChildWatch) : IO Unit := do
  match ← hold link w.turn with
  | .again w => discover link post w
  | .yield (.ok none) _ => post.modify fun p => { p with ended := true }
  | .yield (.error e) _ => post.modify fun p => ⟨p.sent ++ [Except.error e], true⟩
  | .yield (.ok (some children)) w =>
    post.modify fun p => { p with sent := p.sent ++ [Except.ok children] }
    discover link post w

/-- Prints the lines of all task runs while a discovery goes on. -/
partial def followAll (link : Link) (colored : Colored) (post : IO.Ref Post) (logs : InterleavedLogs) :
    IO (Except CommandError Unit) := do
  let p ← post.modifyGet fun p => (p, { p with sent := [] })
  let logs := p.sent.foldl InterleavedLogs.deliver logs
  let logs := if p.ended then logs.hangUp else logs
  match ← hold link logs.turn with
  | .waiting logs =>
    sleep 20
    followAll link colored post logs
  | .turned (.again logs) => followAll link colored post logs
  | .turned (.yield (.ok (some (task, text))) logs) =>
    print (colored.taskLine task text)
    followAll link colored post logs
  | .turned (.yield (.ok none) _) => return .ok ()
  | .turned (.yield (.error e) _) => return .error (.client e)

partial def follow (link : Link) (lines : LogLines) : IO (Except CommandError Unit) := do
  match ← hold link lines.turn with
  | .again lines => follow link lines
  | .yield (.ok (some text)) lines =>
    print (line text)
    follow link lines
  | .yield (.ok none) _ => return .ok ()
  | .yield (.error e) _ => return .error (.client e)

/-- Waits for the end of a pipeline run. -/
partial def await (link : Link) (wait : FinishWait) : IO FinishWait.Result := do
  match ← hold link wait.turn with
  | .again wait => await link wait
  | .yield result _ => return result

def carryOut (link : Link) (colored : Colored) : Undertaking → IO Conclusion
  | .report r => return .completed (← give link r)
  | .await wait ending => do
    match ← await link wait with
    | .returned (.ok last) => return .completed (← give link (ending last))
    | .returned (.error e) => return .completed (.error (.client e))
    | .panicked => return .panicked
  | .follow lines => return .completed (← follow link lines)
  | .followAll run => do
    let post ← IO.mkRef ({} : Post)
    let _ ← IO.asTask (discover link post run.watchNewChildren) Task.Priority.dedicated
    return .completed (← followAll link colored post run.interleavedLogs)

/-- Whether styles are shown: on a terminal, unless the environment says no. -/
def isColored : IO Bool := do
  if (← IO.getEnv "NO_COLOR").isSome then return false
  else (← IO.getStdout).isTty

def environment : IO (Table String) := do
  let names := Settings.knownOptions.filterMap fun o => Settings.environmentName? o.long
  let found ← names.filterMapM fun name => do return (← IO.getEnv name).map (name, ·)
  return Table.ofList found

def complain (message : String) : IO Unit := IO.eprintln ("Error: " ++ message)

/-- Carries out the invocation that the arguments give. -/
def run (args : List String) : IO UInt32 := do
  match Invocation.ofList? (← environment) args with
  | none =>
    if args.contains "--help" || args.contains "-h" then
      print Invocation.usage
      return 0
    else
      IO.eprint Invocation.usage
      return 2
  | some ⟨settings, command⟩ =>
    match settings.config with
    | .error e =>
      complain (Settings.complaint e)
      return 1
    | .ok config =>
      let colored ← isColored
      let link : Link := ⟨.ofUrl config.apiUrl config.token, ← IO.mkRef #[]⟩
      match ← carryOut link colored (command.undertaking config colored) with
      | .completed (.ok ()) => return 0
      | .completed (.error e) =>
        complain e.message
        return 1
      | .panicked =>
        IO.eprintln "overflow when adding duration to instant"
        return 101

end PipelineObserver.Console

def main (args : List String) : IO UInt32 := PipelineObserver.Console.run args
