import PipelineObserver.Json.Token
/-!
JSON texts as trees. A tree is a text that follows the grammar; whether it has a value is asked
afterwards. So a reader that passes over a part of a text still asks that the part follows the
grammar, and asks no more of it.
-/
namespace PipelineObserver.Json

inductive Tree where
  | null
  | bool (value : Bool)
  | number (value : Option Number)
  | text (value : Option String)
  | array (elements : List Tree)
  | object (members : List (Option String × Tree))

namespace Tree

/-- A container that is not closed yet, with what it holds so far in reverse. -/
inductive Frame where
  | array (seen : List Tree)
  | object (seen : List (Option String × Tree)) (key : Option String)

/-- What may come next inside the innermost open container, or at the top. -/
inductive Place where
  -- A value.
  | value
  -- The first element of an array, or its end.
  | firstElement
  -- The first key of an object, or its end.
  | firstKey
  -- A key.
  | key
  -- The colon after a key.
  | colon
  -- A comma, or the end of the container.
  | separator

inductive State where
  | reading (place : Place) (frames : List Frame)
  | finished (tree : Tree)

def State.place (tree : Tree) : List Frame → State
  | [] => .finished tree
  | .array seen :: frames => .reading .separator (.array (tree :: seen) :: frames)
  | .object seen key :: frames => .reading .separator (.object ((key, tree) :: seen) key :: frames)

def State.start? (frames : List Frame) : Token → Option State
  | .openArray => some (.reading .firstElement (.array [] :: frames))
  | .openObject => some (.reading .firstKey (.object [] none :: frames))
  | .null => some (.place .null frames)
  | .bool b => some (.place (.bool b) frames)
  | .number n => some (.place (.number n) frames)
  | .text s => some (.place (.text s) frames)
  | .closeArray | .closeObject | .comma | .colon => none

def State.key? : List Frame → Token → Option State
  | .object seen _ :: frames, .text key => some (.reading .colon (.object seen key :: frames))
  | _, _ => none

def State.close? : List Frame → Token → Option State
  | .array seen :: frames, .closeArray => some (.place (.array seen.reverse) frames)
  | .object seen _ :: frames, .closeObject => some (.place (.object seen.reverse) frames)
  | _, _ => none

def State.next? : List Frame → Option State
  | .array seen :: frames => some (.reading .value (.array seen :: frames))
  | .object seen key :: frames => some (.reading .key (.object seen key :: frames))
  | [] => none

def State.step? : State → Token → Option State
  | .finished _, _ => none
  | .reading .value frames, t => start? frames t
  | .reading .firstElement frames, t => if t = .closeArray then close? frames t else start? frames t
  | .reading .firstKey frames, t => if t = .closeObject then close? frames t else key? frames t
  | .reading .key frames, t => key? frames t
  | .reading .colon frames, t => if t = .colon then some (.reading .value frames) else none
  | .reading .separator frames, t => if t = .comma then next? frames else close? frames t

/-- The tree of a sequence of tokens that makes up exactly one value. -/
def ofTokens? (tokens : List Token) : Option Tree :=
  match tokens.foldlM State.step? (.reading .value []) with
  | some (.finished tree) => some tree
  | _ => none

def ofString? (s : String) : Option Tree := (Token.ofString? s).bind ofTokens?

mutual

/-- The value of a tree that nests no deeper than `levels` containers. Every number and string in it
must have a value. Of several members with one key the last counts. -/
def value? (levels : Nat) : Tree → Option Json
  | .null => some .null
  | .bool b => some (.bool b)
  | .number n => n.map .number
  | .text s => s.map .text
  | .array elements =>
    match levels with
    | 0 => none
    | levels + 1 => (values? levels elements).map .array
  | .object members =>
    match levels with
    | 0 => none
    | levels + 1 => (memberValues? levels members).map .ofMembers

def values? (levels : Nat) : List Tree → Option (List Json)
  | [] => some []
  | t :: rest =>
    match value? levels t, values? levels rest with
    | some v, some vs => some (v :: vs)
    | _, _ => none

def memberValues? (levels : Nat) : List (Option String × Tree) → Option (List (String × Json))
  | [] => some []
  | (key, t) :: rest =>
    match key, value? levels t, memberValues? levels rest with
    | some k, some v, some vs => some ((k, v) :: vs)
    | _, _, _ => none

end

end Tree

/-- How deep arrays and objects may nest in a text that is read as a value. -/
def deepest : Nat := 127

/-- The value of a text that holds exactly one, with nothing but blanks around it. -/
def parse? (s : String) : Option Json := (Tree.ofString? s).bind (Tree.value? deepest)

end PipelineObserver.Json
