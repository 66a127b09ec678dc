/-!
Reading bytes as text: strictly as UTF-8, leniently as UTF-8, and as Latin-1.
-/
namespace PipelineObserver.Text

/-- The text that bytes spell in UTF-8; malformed bytes spell none. -/
def ofUtf8? (bytes : List UInt8) : Option String := String.fromUTF8? ⟨bytes.toArray⟩

/-- The character that stands in for malformed bytes. -/
def replacement : Char := '\uFFFD'

/-- The value of a byte that goes on with a character begun before it. -/
def continuation? (b : UInt8) : Option Nat :=
  if 0x80 ≤ b.toNat ∧ b.toNat < 0xC0 then some (b.toNat - 0x80) else none

/-- The least and the greatest byte that may follow the first byte of a character. -/
def secondRange (first : UInt8) : Nat × Nat :=
  if first = 0xE0 then (0xA0, 0xBF)
  else if first = 0xED then (0x80, 0x9F)
  else if first = 0xF0 then (0x90, 0xBF)
  else if first = 0xF4 then (0x80, 0x8F)
  else (0x80, 0xBF)

/-- How many bytes follow the first byte of a character, and what the first byte gives to its
number. -/
def lead? (b : UInt8) : Option (Nat × Nat) :=
  let n := b.toNat
  if n < 0x80 then some (0, n)
  else if 0xC2 ≤ n ∧ n ≤ 0xDF then some (1, n - 0xC0)
  else if 0xE0 ≤ n ∧ n ≤ 0xEF then some (2, n - 0xE0)
  else if 0xF0 ≤ n ∧ n ≤ 0xF4 then some (3, n - 0xF0)
  else none

/-- A character begun: how many bytes are missing, its number so far, and the range of the next
byte. -/
structure Begun where
  missing : Nat
  number : Nat
  least : Nat
  greatest : Nat

/-- The first byte of a character. A byte that begins none is replaced. -/
def begin (b : UInt8) : List Char × Option Begun :=
  match lead? b with
  | none => ([replacement], none)
  | some (0, n) => ([Char.ofNat n], none)
  | some (missing, n) =>
    let (least, greatest) := secondRange b
    ([], some ⟨missing, n, least, greatest⟩)

/-- Reads UTF-8 leniently: each longest beginning of a character that does not go on is replaced by
one character. -/
def lenientFrom : Option Begun → List UInt8 → List Char
  | none, [] => []
  | some _, [] => [replacement]
  | none, b :: rest =>
    let (cs, begun) := begin b
    cs ++ lenientFrom begun rest
  | some c, b :: rest =>
    if c.least ≤ b.toNat ∧ b.toNat ≤ c.greatest then
      let number := c.number * 64 + (b.toNat - 0x80)
      if c.missing ≤ 1 then Char.ofNat number :: lenientFrom none rest
      else lenientFrom (some ⟨c.missing - 1, number, 0x80, 0xBF⟩) rest
    else
      let (cs, begun) := begin b
      replacement :: (cs ++ lenientFrom begun rest)

/-- Reads UTF-8 leniently. A byte order mark at the beginning is left out. -/
def lenient (bytes : List UInt8) : String :=
  match bytes with
  | 0xEF :: 0xBB :: 0xBF :: rest => String.ofList (lenientFrom none rest)
  | bytes => String.ofList (lenientFrom none bytes)

/-- Each byte is the number of a character. -/
def ofLatin1 (bytes : List UInt8) : String := String.ofList (bytes.map fun b => Char.ofNat b.toNat)

end PipelineObserver.Text
