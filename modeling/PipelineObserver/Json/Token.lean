import PipelineObserver.Bounds
import PipelineObserver.Json.Value
import PipelineObserver.Text.Digit
/-!
The tokens of a JSON text. A number or string token carries its value, or none when it is spelled
well but stands for nothing: a number too great for a double, or half of a surrogate pair.
-/
namespace PipelineObserver.Json

inductive Token where
  | openArray
  | closeArray
  | openObject
  | closeObject
  | comma
  | colon
  | null
  | bool (value : Bool)
  | number (value : Option Number)
  | text (value : Option String)
  deriving DecidableEq

/-- A numeral as it is spelled: its digits, and the power of ten after them. -/
structure Numeral where
  negative : Bool
  whole : List Nat
  fraction : List Nat
  exponent : Int
  -- Written without a point and without an exponent.
  plain : Bool

namespace Numeral

/-- The digits at the front of a text, and what follows them. -/
def digits : List Char → List Nat × List Char
  | [] => ([], [])
  | c :: rest =>
    match Text.digit? c with
    | some d => let (ds, more) := digits rest; (d :: ds, more)
    | none => ([], c :: rest)

/-- The digits after a point, if there is one; then there is at least one of them. -/
def fraction? : List Char → Option (List Nat × List Char)
  | '.' :: rest =>
    match digits rest with
    | ([], _) => none
    | found => some found
  | rest => some ([], rest)

/-- The power of ten after an exponent mark, if there is one. -/
def exponent? : List Char → Option (Int × List Char)
  | [] => some (0, [])
  | c :: rest =>
    if c = 'e' ∨ c = 'E' then
      let (negative, rest) := match rest with
        | '-' :: r => (true, r)
        | '+' :: r => (false, r)
        | r => (false, r)
      match digits rest with
      | ([], _) => none
      | (ds, more) =>
        let n : Int := Text.ofDigits ds
        some (if negative then -n else n, more)
    else some (0, c :: rest)

/-- Reads a whole numeral: an optional minus, digits without a needless zero in front, an optional
fraction and an optional exponent. -/
def ofChars? (cs : List Char) : Option Numeral := do
  let (negative, cs) := match cs with
    | '-' :: r => (true, r)
    | r => (false, r)
  let (whole, afterWhole) := digits cs
  if whole.isEmpty ∨ (whole.head? = some 0 ∧ 1 < whole.length) then none
  let (fraction, afterFraction) ← fraction? afterWhole
  let (exponent, rest) ← exponent? afterFraction
  if rest.isEmpty then
    some { negative, whole, fraction, exponent, plain := afterWhole.isEmpty }
  else none

/-- The number that a numeral stands for: itself when it is plain and fits 64 bits, a double
otherwise. A plain zero with a minus is the negative double. -/
def value? (n : Numeral) : Option Number :=
  let magnitude := Text.ofDigits n.whole
  if n.plain ∧ ¬ n.negative ∧ magnitude ≤ Bounds.greatestUnsigned64 then some (.integer magnitude)
  else if n.plain ∧ n.negative ∧ 0 < magnitude ∧ Bounds.least64 ≤ -(magnitude : Int) then
    some (.integer (-(magnitude : Int)))
  else (Double.ofDigits? n.negative n.whole n.fraction n.exponent).map .double

end Numeral

/-- A piece of a string as it is spelled: a character, or a UTF-16 unit given by its number. -/
inductive Piece where
  | char (c : Char)
  | unit (n : Nat)

/-- A UTF-16 unit spelled by four hexadecimal digits. -/
def hexUnit? (a b c d : Char) : Option Nat := do
  let ds ← [a, b, c, d].mapM Text.hexDigit?
  return ds.foldl (fun n d => n * 16 + d) 0

/-- The character that stands after a backslash for another one. -/
def escape? : Char → Option Char
  | '"' => some '"'
  | '\\' => some '\\'
  | '/' => some '/'
  | 'b' => some '\x08'
  | 'f' => some '\x0c'
  | 'n' => some '\n'
  | 'r' => some '\r'
  | 't' => some '\t'
  | _ => none

/-- The pieces up to the closing quote, in reverse before `seen`, and what follows the quote.
Control characters stand in a string only as escapes. -/
def pieces? (seen : List Piece) : List Char → Option (List Piece × List Char)
  | [] => none
  | '"' :: rest => some (seen, rest)
  | '\\' :: 'u' :: a :: b :: c :: d :: rest =>
    match hexUnit? a b c d with
    | some n => pieces? (.unit n :: seen) rest
    | none => none
  | '\\' :: c :: rest =>
    match escape? c with
    | some e => pieces? (.char e :: seen) rest
    | none => none
  | c :: rest => if c.toNat < 0x20 then none else pieces? (.char c :: seen) rest

theorem length_pieces? {seen ps : List Piece} {cs rest : List Char}
    (h : pieces? seen cs = some (ps, rest)) : rest.length < cs.length := by
  fun_induction pieces? seen cs <;> simp_all <;> omega

/-- The characters that the pieces stand for. A unit of a surrogate pair stands for something only
together with the other one. -/
def spelled? : List Piece → Option (List Char)
  | [] => some []
  | .char c :: rest => (spelled? rest).map (c :: ·)
  | .unit n :: rest =>
    if 0xDC00 ≤ n ∧ n < 0xE000 then none
    else if 0xD800 ≤ n ∧ n < 0xDC00 then
      match rest with
      | .unit m :: rest =>
        if 0xDC00 ≤ m ∧ m < 0xE000 then
          (spelled? rest).map (Char.ofNat (0x10000 + (n - 0xD800) * 0x400 + (m - 0xDC00)) :: ·)
        else none
      | _ => none
    else (spelled? rest).map (Char.ofNat n :: ·)

/-- Space, tab, line feed and carriage return stand between tokens. -/
def isBlank (c : Char) : Bool := c == ' ' || c == '\t' || c == '\n' || c == '\r'

def inNumeral (c : Char) : Bool :=
  c.isDigit || c == '-' || c == '+' || c == '.' || c == 'e' || c == 'E'

def Token.ofPunctuation? : Char → Option Token
  | '[' => some .openArray
  | ']' => some .closeArray
  | '{' => some .openObject
  | '}' => some .closeObject
  | ',' => some .comma
  | ':' => some .colon
  | _ => none

def Token.ofWord? (word : List Char) : Option Token :=
  if word = "null".toList then some .null
  else if word = "true".toList then some (.bool true)
  else if word = "false".toList then some (.bool false)
  else none

/-- The tokens of a text, in reverse before `seen`. -/
def Token.scan? (seen : List Token) (cs : List Char) : Option (List Token) :=
  match cs with
  | [] => some seen
  | c :: rest =>
    if isBlank c then scan? seen rest
    else if c = '"' then
      match h : pieces? [] rest with
      | none => none
      | some (ps, after) =>
        have : after.length < rest.length := length_pieces? h
        scan? (.text ((spelled? ps.reverse).map String.ofList) :: seen) after
    else if c.isDigit ∨ c = '-' then
      match Numeral.ofChars? (c :: rest.takeWhile inNumeral) with
      | none => none
      | some n =>
        have := (List.dropWhile_sublist inNumeral (l := rest)).length_le
        scan? (.number n.value? :: seen) (rest.dropWhile inNumeral)
    else if c.isAlpha then
      match ofWord? (c :: rest.takeWhile Char.isAlpha) with
      | none => none
      | some t =>
        have := (List.dropWhile_sublist Char.isAlpha (l := rest)).length_le
        scan? (t :: seen) (rest.dropWhile Char.isAlpha)
    else
      match ofPunctuation? c with
      | none => none
      | some t => scan? (t :: seen) rest
termination_by cs.length

def Token.ofString? (s : String) : Option (List Token) :=
  (scan? [] s.toList).map List.reverse

end PipelineObserver.Json
