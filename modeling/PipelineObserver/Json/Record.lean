import PipelineObserver.Json.Tree
/-!
Records: documents with a fixed list of field names. A record is an object, of which other members
are passed over, or an array of the fields in their order, from which fields at the end may be
missing. A field that is absent and one that is null say the same wherever a field may be absent at
all.
-/
namespace PipelineObserver.Json

/-- The fields of a record given as a value. -/
def fields? (names : List String) : Json → Option (Table Json)
  | .object members => some members
  | .array elements =>
    if elements.length ≤ names.length then some (names.zip elements) else none
  | _ => none

/-- A field that may be absent or null. -/
def optional? {α : Type} (decode : Json → Option α) (name : String) (fields : Table Json) :
    Option (Option α) :=
  match Table.get? name fields with
  | none | some .null => some none
  | some v => (decode v).map some

def required? {α : Type} (decode : Json → Option α) (name : String) (fields : Table Json) :
    Option α :=
  (Table.get? name fields).bind decode

/-- A list of which every element can be decoded. -/
def list? {α : Type} (decode : Json → Option α) : Json → Option (List α)
  | .array elements => elements.mapM decode
  | _ => none

def labels? : Json → Option (Table String)
  | .object members => members.mapM fun (key, v) => v.text?.map (key, ·)
  | _ => none

/-- The members of an object in a text that have one of the given names. Every key must have a
value, and none of the names may come twice. -/
def Tree.knownMembers? (names : List String) :
    List (Option String × Tree) → Option (List (String × Tree))
  | [] => some []
  | (key, t) :: rest =>
    match key, knownMembers? names rest with
    | some k, some known =>
      if names.contains k then
        if known.any (·.1 == k) then none else some ((k, t) :: known)
      else some known
    | _, _ => none

/-- The fields of a record read from a text. -/
def Tree.fields? (names : List String) : Tree → Option (List (String × Tree))
  | .object members => knownMembers? names members
  | .array elements =>
    if elements.length ≤ names.length then some (names.zip elements) else none
  | _ => none

end PipelineObserver.Json
