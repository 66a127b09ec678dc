import PipelineObserver.Text.Digit
/-!
Points of time in UTC: their written form, and the reading of a date, a time and an offset from UTC.
-/
namespace PipelineObserver

/-- A day of the Gregorian calendar, continued to all years. -/
structure Date where
  year : Int
  month : Nat
  day : Nat
  deriving DecidableEq

namespace Date

def isLeap (year : Int) : Bool :=
  year % 4 == 0 && (year % 100 != 0 || year % 400 == 0)

def daysIn (year : Int) (month : Nat) : Nat :=
  if month = 2 then (if isLeap year then 29 else 28)
  else if month = 4 ∨ month = 6 ∨ month = 9 ∨ month = 11 then 30
  else 31

def isValid (d : Date) : Bool :=
  1 ≤ d.month && d.month ≤ 12 && 1 ≤ d.day && d.day ≤ daysIn d.year d.month

def next (d : Date) : Date :=
  if d.day < daysIn d.year d.month then { d with day := d.day + 1 }
  else if d.month < 12 then ⟨d.year, d.month + 1, 1⟩
  else ⟨d.year + 1, 1, 1⟩

def previous (d : Date) : Date :=
  if 1 < d.day then { d with day := d.day - 1 }
  else if 1 < d.month then ⟨d.year, d.month - 1, daysIn d.year (d.month - 1)⟩
  else ⟨d.year - 1, 12, 31⟩

end Date

/-- A point of time in UTC. A leap second is the second 60. -/
structure Timestamp where
  date : Date
  hour : Nat
  minute : Nat
  second : Nat
  nanosecond : Nat
  deriving DecidableEq

namespace Timestamp

/-- The point of time at which clocks that are `offset` minutes ahead of UTC show the given date and
time. The offset is less than a day. -/
def ofLocal (date : Date) (hour minute second nanosecond : Nat) (offset : Int) : Timestamp :=
  let minutes : Int := 60 * hour + minute - offset
  let ofMinutes (day : Date) (m : Nat) : Timestamp := ⟨day, m / 60, m % 60, second, nanosecond⟩
  if minutes < 0 then ofMinutes date.previous (minutes + 1440).toNat
  else if minutes < 1440 then ofMinutes date minutes.toNat
  else ofMinutes date.next (minutes - 1440).toNat

/-- Writes a number with at least `width` digits. -/
def padded (width n : Nat) : String :=
  let ds := toString n
  String.ofList (List.replicate (width - ds.length) '0') ++ ds

/-- A year has at least four digits, and a sign outside the years from 0 to 9999. -/
def writeYear (year : Int) : String :=
  if 0 ≤ year ∧ year ≤ 9999 then padded 4 year.toNat
  else (if year < 0 then "-" else "+") ++ padded 4 year.natAbs

/-- A fraction of a second has three, six or nine digits, the fewest that lose nothing. -/
def writeFraction (nanosecond : Nat) : String :=
  if nanosecond = 0 then ""
  else if nanosecond % 1000000 = 0 then "." ++ padded 3 (nanosecond / 1000000)
  else if nanosecond % 1000 = 0 then "." ++ padded 6 (nanosecond / 1000)
  else "." ++ padded 9 nanosecond

def writeDate (d : Date) : String :=
  writeYear d.year ++ "-" ++ padded 2 d.month ++ "-" ++ padded 2 d.day

def writeTime (t : Timestamp) : String :=
  padded 2 t.hour ++ ":" ++ padded 2 t.minute ++ ":" ++ padded 2 t.second

def render (t : Timestamp) : String :=
  writeDate t.date ++ "T" ++ writeTime t ++ writeFraction t.nanosecond ++ "Z"

def display (t : Timestamp) : String := writeDate t.date ++ " " ++ writeTime t ++ " UTC"

/-- The number made of exactly `count` digits, and what follows them. -/
def number? (count : Nat) (cs : List Char) : Option (Nat × List Char) := do
  if cs.length < count then none
  let ds ← (cs.take count).mapM Text.digit?
  return (Text.ofDigits ds, cs.drop count)

def expect? (c : Char) : List Char → Option (List Char)
  | d :: rest => if c = d then some rest else none
  | [] => none

/-- Nanoseconds from the digits after a point, if there is one. Digits after the ninth are cut. -/
def fraction? : List Char → Option (Nat × List Char)
  | '.' :: rest =>
    let ds := rest.takeWhile (Text.digit? · |>.isSome)
    if ds.isEmpty then none
    else do
      let nine := ds.take 9 ++ List.replicate (9 - ds.length) '0'
      let (n, _) ← number? 9 nine
      return (n, rest.dropWhile (Text.digit? · |>.isSome))
  | rest => some (0, rest)

/-- An offset from UTC in minutes: `Z`, or a sign with hours and minutes. The sign may be the
typographical minus. -/
def offset? (cs : List Char) : Option Int :=
  match cs with
  | ['Z'] | ['z'] => some 0
  | sign :: rest => do
    let ahead ←
      if sign = '+' then some true
      else if sign = '-' ∨ sign = '\u2212' then some false
      else none
    let (hours, rest) ← number? 2 rest
    let rest ← expect? ':' rest
    let (minutes, rest) ← number? 2 rest
    if rest.isEmpty ∧ hours ≤ 23 ∧ minutes ≤ 59 then
      let m : Int := 60 * hours + minutes
      return if ahead then m else -m
    else none
  | [] => none

/-- Reads a date, a time and an offset: four digits of a year, two of each other field, `T` or a
space before the time, and an optional fraction of a second. -/
def parse? (s : String) : Option Timestamp := do
  let (year, rest) ← number? 4 s.toList
  let rest ← expect? '-' rest
  let (month, rest) ← number? 2 rest
  let rest ← expect? '-' rest
  let (day, rest) ← number? 2 rest
  let rest ← match rest with
    | c :: rest => if c = 'T' ∨ c = 't' ∨ c = ' ' then some rest else none
    | [] => none
  let (hour, rest) ← number? 2 rest
  let rest ← expect? ':' rest
  let (minute, rest) ← number? 2 rest
  let rest ← expect? ':' rest
  let (second, rest) ← number? 2 rest
  let (nanosecond, rest) ← fraction? rest
  let offset ← offset? rest
  let date : Date := ⟨year, month, day⟩
  if date.isValid ∧ hour ≤ 23 ∧ minute ≤ 59 ∧ second ≤ 60 then
    return ofLocal date hour minute second nanosecond offset
  else none

end Timestamp

end PipelineObserver
