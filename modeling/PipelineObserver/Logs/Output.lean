import PipelineObserver.Logs.Lines
/-!
Reading logs in either way: whole, as they are now, or line by line as they are written; and the
text that either way comes to.
-/
namespace PipelineObserver

inductive LogOutput where
  | complete (logs : List SourceLog)
  | stream (lines : LogLines)
  deriving DecidableEq

/-- Logs are read line by line if they are to be followed or waited for. -/
def PodLogs.read (l : PodLogs) (follow wait : Bool) : Client LogOutput := do
  if follow || wait then return .stream l.stream
  else return .complete (← l.fetchAll)

/-- Logs are read line by line if they are to be followed or waited for. -/
def TaskRunLogs.read (l : TaskRunLogs) (follow wait : Bool) : Client LogOutput := do
  if follow || wait then return .stream l.stream
  else return .complete (← l.fetchAll)

structure LogText where
  text : String
  -- The lines that are still to come.
  lines : Option LogLines
  deriving DecidableEq

/-- The text of an output, to be collected. -/
def LogOutput.intoText : LogOutput → LogText
  | complete logs => ⟨SourceLog.joined logs, none⟩
  | stream lines => ⟨"", some lines⟩

namespace LogText

/-- One turn. The whole text is yielded at its end; each line that was streamed ends in a line feed.
-/
def turn (t : LogText) : Dialogue (Turn LogText (Except Failure String)) :=
  match t.lines with
  | none => return .yield (.ok t.text) t
  | some lines => do
    match ← lines.turn with
    | .again l => return .again { t with lines := some l }
    | .yield (.error e) l => return .yield (.error e) { t with lines := some l }
    | .yield (.ok none) l => return .yield (.ok t.text) { t with lines := some l }
    | .yield (.ok (some line)) l => return .again ⟨t.text ++ line ++ "\n", some l⟩

end LogText

end PipelineObserver
