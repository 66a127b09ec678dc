import PipelineObserver.Json.Record
/-!
Watch events: the notifications that a watch stream carries, one JSON record on each line.
-/
namespace PipelineObserver

/-- The kind of change that an event announces. -/
inductive WatchEventKind where
  | added
  | modified
  | deleted
  | error
  -- Any other declared type.
  | other (name : String)
  deriving DecidableEq

namespace WatchEventKind

def ofName : String → WatchEventKind
  | "ADDED" => added
  | "MODIFIED" => modified
  | "DELETED" => deleted
  | "ERROR" => error
  | name => other name

def name : WatchEventKind → String
  | added => "ADDED"
  | modified => "MODIFIED"
  | deleted => "DELETED"
  | error => "ERROR"
  | other name => name

theorem name_ofName (s : String) : (ofName s).name = s := by
  unfold ofName
  split <;> rfl

end WatchEventKind

structure WatchEvent where
  kind : WatchEventKind
  object : Json
  deriving DecidableEq

/-- Why a line of a watch stream is no event. -/
inductive WatchEventError where
  | invalidJson
  | missingType
  | missingObject
  deriving DecidableEq

namespace WatchEventError

def message : WatchEventError → String
  | invalidJson => "cannot decode watch event: "
  | missingType => "watch event has no 'type'"
  | missingObject => "watch event has no 'object'"

end WatchEventError

namespace WatchEvent

def declaredType? (fields : List (String × Json.Tree)) : Option (Option String) :=
  match Table.get? "type" fields with
  | none | some .null => some none
  | some (.text (some s)) => some (some s)
  | some _ => none

/-- The object, if there is one. It nests inside the record, so one level less deep than a text. -/
def object? (fields : List (String × Json.Tree)) : Option (Option Json) :=
  match Table.get? "object" fields with
  | none | some .null => some none
  | some t => (t.value? (Json.deepest - 1)).map some

/-- Reads one line. A missing object is noticed before a missing type. -/
def ofLine (line : String) : Except WatchEventError WatchEvent :=
  let fields := (Json.Tree.ofString? line).bind (·.fields? ["type", "object"])
  match fields.bind fun fs => (declaredType? fs).bind fun t => (object? fs).map (t, ·) with
  | none => .error .invalidJson
  | some (_, none) => .error .missingObject
  | some (none, some _) => .error .missingType
  | some (some type, some object) => .ok ⟨.ofName type, object⟩

end WatchEvent

end PipelineObserver
