import PipelineObserver.Double.Decimal
/-!
The text of a double: the fewest digits that read back as the same double, and of those the nearest
to it. The search is done in exact arithmetic on the interval of reals that round to the double.
-/
namespace PipelineObserver.Double

/-- The reals that round to a positive double: all those between `lower` and `upper`, in units of
`1 / unit`, around `value`; the ends belong to it exactly if `closed`. -/
structure Interval where
  value : Nat
  lower : Nat
  upper : Nat
  unit : Nat
  closed : Bool

/-- The bit before the fraction of a normal double, 52 places from the right; it is not stored. -/
def hiddenBit : Nat := 0x10000000000000

def mantissa (x : Double) : Nat := x.bits.toNat % hiddenBit

def biased (x : Double) : Nat := x.bits.toNat / hiddenBit % 0x800

def negative (x : Double) : Bool := x.bits.toNat / 0x8000000000000000 == 1

/-- The rounding interval of the magnitude of a finite double. The gap below a power of two is half
the gap above it. -/
def interval (x : Double) : Interval :=
  let m := if x.biased = 0 then x.mantissa else hiddenBit + x.mantissa
  let q : Int := max x.biased 1 - 1077
  let up := Nat.pow 2 q.toNat
  let below := if x.mantissa = 0 ∧ 1 < x.biased then 1 else 2
  { value := 4 * m * up
    lower := (4 * m - below) * up
    upper := (4 * m + 2) * up
    unit := Nat.pow 2 (-q).toNat
    closed := m % 2 = 0 }

/-- A positive decimal number: `digits` times ten to the power `exponent`. -/
structure Decimal where
  digits : Nat
  exponent : Int

/-- Whether `digits * scaleUp` lies in the interval once that is multiplied by `scaleDown`. -/
def Interval.contains (i : Interval) (scaleUp scaleDown digits : Nat) : Bool :=
  let point := digits * scaleUp
  if i.closed then i.lower * scaleDown ≤ point && point ≤ i.upper * scaleDown
  else i.lower * scaleDown < point && point < i.upper * scaleDown

/-- The point of the grid of step ten to the power `e` that lies in the interval nearest to its
value; of two equally near the even one. -/
def Interval.onGrid? (i : Interval) (e : Int) : Option Decimal :=
  let scaleUp := i.unit * Nat.pow 10 e.toNat
  let scaleDown := Nat.pow 10 (-e).toNat
  let below := i.value * scaleDown / scaleUp
  match i.contains scaleUp scaleDown below, i.contains scaleUp scaleDown (below + 1) with
  | false, false => none
  | true, false => some ⟨below, e⟩
  | false, true => some ⟨below + 1, e⟩
  | true, true =>
    let twice := 2 * i.value * scaleDown
    let middle := (2 * below + 1) * scaleUp
    if twice < middle ∨ twice = middle ∧ below % 2 = 0 then some ⟨below, e⟩
    else some ⟨below + 1, e⟩

/-- The power of ten of the first digit of a positive value. -/
def Interval.magnitude (i : Interval) : Int :=
  if i.unit ≤ i.value then (toString (i.value / i.unit)).length - 1
  else
    Int.neg (((List.range 400).find? fun j => i.unit ≤ i.value * Nat.pow 10 j).getD 400 : Nat)

/-- The decimal number of fewest digits in the interval. Seventeen digits are always enough. -/
def Interval.shortest (i : Interval) : Decimal :=
  let grids := (List.range 17).map fun n : Nat => i.magnitude - n
  (grids.findSome? i.onGrid?).getD ⟨i.value / i.unit, 0⟩

structure Layout where
  -- The first digit's powers of ten that are written without an exponent.
  positionalFrom : Int
  positionalTo : Int
  -- The least number of digits of an exponent.
  exponentDigits : Nat

/-- Numbers from `0.00001` to below ten to the power 16 are written without an exponent; an exponent
has its sign and at least two digits. -/
def layout : Layout := ⟨-5, 15, 2⟩

/-- Writes digits `ds`, of which the first stands for ten to the power `e`. A number without an
exponent has a point and a digit on each side of it. -/
def Layout.write (l : Layout) (ds : List Char) (e : Int) : String :=
  if l.positionalFrom ≤ e ∧ e ≤ l.positionalTo then
    if e < 0 then
      "0." ++ String.ofList (List.replicate (-e - 1).toNat '0' ++ ds)
    else
      let n := e.toNat + 1
      let whole := ds.take n ++ List.replicate (n - ds.length) '0'
      let fraction := ds.drop n
      String.ofList whole ++ "." ++ String.ofList (if fraction.isEmpty then ['0'] else fraction)
  else
    let power := (toString e.natAbs).toList
    let digits := List.replicate (l.exponentDigits - power.length) '0' ++ power
    let fraction := ds.drop 1
    String.ofList (ds.take 1 ++ (if fraction.isEmpty then [] else '.' :: fraction)) ++ "e"
      ++ (if e < 0 then "-" else "+") ++ String.ofList digits

/-- The decimal digits of a number, without the zeros at its end. -/
def Decimal.significant (d : Decimal) : List Char :=
  ((toString d.digits).toList.reverse.dropWhile (· == '0')).reverse

def text (x : Double) : String :=
  let magnitude :=
    if x.biased = 0 ∧ x.mantissa = 0 then "0.0"
    else
      let d := x.interval.shortest
      layout.write d.significant (d.exponent + (toString d.digits).length - 1)
  if x.negative then "-" ++ magnitude else magnitude

end PipelineObserver.Double
