import PipelineObserver.Text.Digit
import PipelineObserver.Text.Percent
import PipelineObserver.Text.Split
import PipelineObserver.Text.Utf8
/-!
Hosts: which texts name a host, be it by an address of version 4 or 6 or by a name, and with which
number of a service.
-/
namespace PipelineObserver.Http.Host

/-- Characters that never stand in the name of a host. -/
def isForbidden (c : Char) : Bool :=
  c.toNat ≤ 0x20 || c.toNat == 0x7F || "\"#%/:<>?@[\\]^\x60\x7b|\x7d".toList.contains c

def based? (base : Nat) (cs : List Char) : Option Nat :=
  cs.foldlM (fun n c => do
    let d ← Text.hexDigit? c
    if d < base then some (n * base + d) else none) 0

/-- A part of an address of version 4: decimal, octal after a zero, hexadecimal after `0x`. -/
def part? : List Char → Option Nat
  | [] => none
  | '0' :: x :: rest =>
    if x = 'x' ∨ x = 'X' then based? 16 rest else based? 8 (x :: rest)
  | cs => based? 10 cs

/-- The parts of the name of a host; a point at its end says nothing. -/
def labels (host : List Char) : List (List Char) :=
  match (Text.split '.' host).reverse with
  | [] :: rest => if rest.isEmpty then [[]] else rest.reverse
  | parts => parts.reverse

/-- Whether the name of a host ends in a number, so that it must be an address of version 4. -/
def endsInNumber (host : List Char) : Bool :=
  match (labels host).getLast? with
  | some last => (Text.decimal? last).isSome || (last.length ≥ 2 && (part? last).isSome)
  | none => false

/-- Whether a name is an address of version 4. -/
def isVersion4 (host : List Char) : Bool :=
  match (labels host).mapM part? with
  | none => false
  | some parts =>
    match parts.reverse with
    | last :: rest =>
      rest.length ≤ 3 && rest.all (· ≤ 255) && last < Nat.pow 256 (4 - rest.length)
    | [] => false

/-- Whether a text is a group of an address of version 6. -/
def isGroup (cs : List Char) : Bool :=
  1 ≤ cs.length && cs.length ≤ 4 && cs.all fun c => (Text.hexDigit? c).isSome

/-- Whether a text is an address of version 4 in the form that it has inside one of version 6. -/
def isQuad (cs : List Char) : Bool :=
  let parts := Text.split '.' cs
  parts.length = 4 && parts.all fun part => (Text.decimal? part).any (· ≤ 255)

/-- How many groups of an address of version 6 a list of parts makes. The last part may be an
address of version 4, which makes two. -/
def groups? (parts : List (List Char)) : Option Nat :=
  match parts.reverse with
  | [] => some 0
  | last :: rest =>
    if ¬ rest.all isGroup then none
    else if isGroup last then some (rest.length + 1)
    else if isQuad last then some (rest.length + 2)
    else none

/-- The texts before and after the first two colons in a row. -/
def gap? : List Char → Option (List Char × List Char)
  | ':' :: ':' :: rest => some ([], rest)
  | c :: rest => (gap? rest).map fun (before, after) => (c :: before, after)
  | [] => none

/-- Whether a text is an address of version 6. -/
def isVersion6 (cs : List Char) : Bool :=
  let parts (cs : List Char) : List (List Char) := if cs.isEmpty then [] else Text.split ':' cs
  match gap? cs with
  | none => groups? (parts cs) == some 8
  | some (before, after) =>
    match groups? (parts after) with
    | some n => (parts before).all isGroup && (parts before).length + n ≤ 7
    | none => false

/-- A name in lower case, if it is one of a host. -/
def name? (cs : List Char) : Option String := do
  let name ← Text.ofUtf8? (Text.percentDecode cs)
  let cs := name.toList
  if cs.isEmpty ∨ cs.any isForbidden ∨ (endsInNumber cs ∧ ¬ isVersion4 cs) then none
  else some (String.ofList (cs.map Char.toLower))

/-- A host: a name, or an address of version 6 in brackets. -/
def host? (cs : List Char) : Option String :=
  match cs with
  | '[' :: rest =>
    match rest.reverse with
    | ']' :: inner => if isVersion6 inner.reverse then some (String.ofList cs) else none
    | _ => none
  | cs => name? cs

/-- The number of a service after a colon, or none. -/
def service? : List Char → Option (Option Nat)
  | [] | [':'] => some none
  | ':' :: digits => (Text.decimal? digits).bind fun n => if n < 65536 then some (some n) else none
  | _ => none

/-- Splits a host from what is said of its service. -/
def splitService (cs : List Char) : List Char × List Char :=
  match cs with
  | '[' :: _ =>
    let host := cs.takeWhile (· ≠ ']') ++ (cs.dropWhile (· ≠ ']')).take 1
    (host, (cs.dropWhile (· ≠ ']')).drop 1)
  | _ => (cs.takeWhile (· ≠ ':'), cs.dropWhile (· ≠ ':'))

end PipelineObserver.Http.Host
