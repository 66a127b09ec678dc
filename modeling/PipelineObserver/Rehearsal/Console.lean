import PipelineObserver.CommandLine.Report
import PipelineObserver.Rehearsal.Session
/-!
Commands carried out in a session, with all that they print.
-/
namespace PipelineObserver.Rehearsal

/-- The end of a command: what it came to, and what it printed. Without an end in sight there is no
conclusion. -/
structure Ending where
  conclusion : Option Conclusion
  printed : String

namespace Session

/-- Prints the items of a sequence as they come, up to its end. -/
def printAll (colored : Colored) (q : Sequence) (s : Session) (printed : String) :
    Nat → Ending × Session
  | 0 => (⟨none, printed⟩, s)
  | fuel + 1 =>
    match q.next s with
    | (.item (.line text), q, s) => printAll colored q s (printed ++ line text) fuel
    | (.item (.taskLine task text), q, s) =>
      printAll colored q s (printed ++ colored.taskLine task text) fuel
    | (.item _, q, s) => printAll colored q s printed fuel
    | (.ended, _, s) => (⟨some (.completed (.ok ())), printed⟩, s)
    | (.failed e, _, s) => (⟨some (.completed (.error (.client e))), printed⟩, s)
    | (.stalled, _, s) => (⟨none, printed⟩, s)

def give (r : Report Unit) (s : Session) : Ending × Session :=
  match s.hold (r.run.run "") with
  | ((result, printed), s) => (⟨some (.completed result), printed⟩, s)

def carryOut (colored : Colored) (u : Undertaking) (s : Session) : Ending × Session :=
  match u with
  | .report r => s.give r
  | .await wait ending =>
    match Session.settle FinishWait.turn wait s patience with
    | (some (.returned (.ok last), _), s) => s.give (ending last)
    | (some (.returned (.error e), _), s) => (⟨some (.completed (.error (.client e))), ""⟩, s)
    | (some (.panicked, _), s) => (⟨some .panicked, ""⟩, s)
    | (none, s) => (⟨none, ""⟩, s)
  | .follow lines => s.printAll colored (.lines lines) "" patience
  | .followAll run =>
    match s.beginDiscovery run.watchNewChildren with
    | (discovery, s) => s.printAll colored (.interleaved run.interleavedLogs discovery) "" patience

end Session

end PipelineObserver.Rehearsal
