import PipelineObserver.Text.Digit
/-!
Percent encoding: bytes of UTF-8 written as a percent sign and two digits.
-/
namespace PipelineObserver.Text

/-- A byte as a percent sign and two digits. -/
def percentByte (b : UInt8) : List Char :=
  ['%', upperHexDigit (b.toNat / 16), upperHexDigit (b.toNat % 16)]

def utf8 (s : String) : List UInt8 := s.toUTF8.toList

/-- Encodes the characters that must not stand for themselves. -/
def percentEncode (mayStand : Char → Bool) (cs : List Char) : List Char :=
  cs.flatMap fun c =>
    if mayStand c then [c] else (utf8 (String.singleton c)).flatMap percentByte

/-- The bytes that a text stands for, in which a percent sign and two digits are one byte. -/
def percentDecode : List Char → List UInt8
  | '%' :: a :: b :: rest =>
    match hexDigit? a, hexDigit? b with
    | some m, some n => (m * 16 + n).toUInt8 :: percentDecode rest
    | _, _ => utf8 "%" ++ percentDecode (a :: b :: rest)
  | c :: rest => utf8 (String.singleton c) ++ percentDecode rest
  | [] => []

/-- The characters of a path that stand for themselves. -/
def inPath (c : Char) : Bool :=
  0x20 < c.toNat && c.toNat < 0x7F && !("\"#<>?\x60\x7b\x7d".toList.contains c)

/-- The characters of a query that stand for themselves. -/
def inQuery (c : Char) : Bool :=
  0x20 < c.toNat && c.toNat < 0x7F && !("\"#<>'".toList.contains c)

/-- The characters of a form that stand for themselves. -/
def inForm (c : Char) : Bool := c.isAlphanum || c == '*' || c == '-' || c == '.' || c == '_'

/-- A text in a form, where a plus sign stands for a space. -/
def formEncode (s : String) : List Char :=
  (percentEncode (fun c => inForm c || c == ' ') s.toList).map fun c => if c = ' ' then '+' else c

def formPairs (pairs : List (String × String)) : List Char :=
  ['&'].intercalate (pairs.map fun (k, v) => formEncode k ++ '=' :: formEncode v)

end PipelineObserver.Text
