import PipelineObserver.Bounds
import PipelineObserver.Json.Record
/-!
Steps of a task run, and the result that a step leaves in its termination message.
-/
namespace PipelineObserver

structure Termination where
  exitCode : Int
  reason : String
  message : Option String
  deriving DecidableEq

structure Step where
  name : String
  containerName : String
  -- Absent while the step is pending or running.
  terminated : Option Termination
  deriving DecidableEq

/-- The step ended with an exit code other than zero. -/
def Step.hasFailed (s : Step) : Bool :=
  match s.terminated with
  | some t => t.exitCode ≠ 0
  | none => false

namespace Termination

structure Entry where
  key : String
  value : String
  deriving DecidableEq

/-- The key of the entry in which a step explains its failure. -/
def resultKey : String := "task_result"

/-- A field of an entry that may be left out, but not be null. -/
def Entry.textOr? (absent : Option String) (name : String) (fields : List (String × Json.Tree)) :
    Option String :=
  match Table.get? name fields with
  | none => absent
  | some (.text s) => s
  | some _ => none

/-- Entries may carry the number of their type, which says nothing here but must be an integer. -/
def Entry.typeIsValid (fields : List (String × Json.Tree)) : Bool :=
  match Table.get? "type" fields with
  | none | some .null => true
  | some (.number (some (.integer n))) => Bounds.least64 ≤ n && n ≤ Bounds.greatest64
  | some _ => false

def Entry.ofTree? (t : Json.Tree) : Option Entry := do
  let fields ← t.fields? ["key", "value", "type"]
  let key ← Entry.textOr? none "key" fields
  let value ← Entry.textOr? (some "") "value" fields
  if Entry.typeIsValid fields then return ⟨key, value⟩ else none

/-- The entries of a structured termination message: a list of records in JSON. -/
def entries? (message : String) : Option (List Entry) :=
  match Json.Tree.ofString? message with
  | some (.array elements) => elements.mapM Entry.ofTree?
  | _ => none

/-- Why the structured message of a step cannot be used. -/
inductive MessageError where
  | invalidJson
  deriving DecidableEq

/-- The value of the first entry with the key of results. A message that is absent or empty has
none; any other one must be a structured message. -/
def taskResult (t : Termination) : Except MessageError (Option String) :=
  match t.message with
  | none | some "" => .ok none
  | some message =>
    match entries? message with
    | none => .error .invalidJson
    | some entries => .ok ((entries.find? (·.key = resultKey)).map (·.value))

end Termination

end PipelineObserver
