import PipelineObserver.Table
import PipelineObserver.Double.Decimal
/-!
JSON values. The members of an object stand in increasing order of their keys, each key once, so two
values with the same members are equal.
-/
namespace PipelineObserver

/-- A number: an integer that fits 64 bits, with or without sign, or else a double. -/
inductive Json.Number where
  | integer (value : Int)
  | double (value : Double)
  deriving DecidableEq

inductive Json where
  | null
  | bool (value : Bool)
  | number (value : Json.Number)
  | text (value : String)
  | array (elements : List Json)
  | object (members : List (String × Json))

namespace Json

mutual

def decideEq : (a b : Json) → Decidable (a = b)
  | .null, .null => isTrue rfl
  | .bool a, .bool b =>
    if h : a = b then isTrue (h ▸ rfl) else isFalse fun e => h (by injection e)
  | .number a, .number b =>
    if h : a = b then isTrue (h ▸ rfl) else isFalse fun e => h (by injection e)
  | .text a, .text b =>
    if h : a = b then isTrue (h ▸ rfl) else isFalse fun e => h (by injection e)
  | .array a, .array b =>
    match decideElements a b with
    | isTrue h => isTrue (h ▸ rfl)
    | isFalse h => isFalse fun e => h (by injection e)
  | .object a, .object b =>
    match decideMembers a b with
    | isTrue h => isTrue (h ▸ rfl)
    | isFalse h => isFalse fun e => h (by injection e)
  | .null, .bool _ | .null, .number _ | .null, .text _ | .null, .array _ | .null, .object _
  | .bool _, .null | .bool _, .number _ | .bool _, .text _ | .bool _, .array _ | .bool _, .object _
  | .number _, .null | .number _, .bool _ | .number _, .text _ | .number _, .array _
  | .number _, .object _
  | .text _, .null | .text _, .bool _ | .text _, .number _ | .text _, .array _ | .text _, .object _
  | .array _, .null | .array _, .bool _ | .array _, .number _ | .array _, .text _
  | .array _, .object _
  | .object _, .null | .object _, .bool _ | .object _, .number _ | .object _, .text _
  | .object _, .array _ => isFalse nofun

def decideElements : (a b : List Json) → Decidable (a = b)
  | [], [] => isTrue rfl
  | [], _ :: _ | _ :: _, [] => isFalse nofun
  | x :: xs, y :: ys =>
    match decideEq x y, decideElements xs ys with
    | isTrue h, isTrue hs => isTrue (h ▸ hs ▸ rfl)
    | isFalse h, _ => isFalse fun e => h (by injection e)
    | _, isFalse hs => isFalse fun e => hs (by injection e)

def decideMembers : (a b : List (String × Json)) → Decidable (a = b)
  | [], [] => isTrue rfl
  | [], _ :: _ | _ :: _, [] => isFalse nofun
  | (k, x) :: xs, (l, y) :: ys =>
    if hk : k = l then
      match decideEq x y, decideMembers xs ys with
      | isTrue h, isTrue hs => isTrue (hk ▸ h ▸ hs ▸ rfl)
      | isFalse h, _ => isFalse fun e => h (by injection e with e; injection e)
      | _, isFalse hs => isFalse fun e => hs (by injection e)
    else isFalse fun e => hk (by injection e with e; injection e)

end

instance : DecidableEq Json := decideEq

instance : Inhabited Json := ⟨null⟩

/-- An object with the given members, of which the last under a key counts. -/
def ofMembers (members : List (String × Json)) : Json := object (Table.ofList members)

def ofTexts (texts : List String) : Json := array (texts.map text)

def ofLabels (labels : Table String) : Json := object (labels.map fun (k, v) => (k, text v))

def ofInt (n : Int) : Json := number (.integer n)

/-- The member under a key, if the value is an object that has one. -/
def get? (key : String) : Json → Option Json
  | object members => Table.get? key members
  | _ => none

def text? : Json → Option String
  | text s => some s
  | _ => none

def bool? : Json → Option Bool
  | bool b => some b
  | _ => none

def array? : Json → Option (List Json)
  | array xs => some xs
  | _ => none

def object? : Json → Option (Table Json)
  | object members => some members
  | _ => none

/-- An integer between two bounds, both included. A double is no integer, whatever its value. -/
def integer? (least greatest : Int) : Json → Option Int
  | number (.integer n) => if least ≤ n ∧ n ≤ greatest then some n else none
  | _ => none

def isNull : Json → Bool
  | null => true
  | _ => false

end Json

end PipelineObserver
