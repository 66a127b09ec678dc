import PipelineObserver.Bounds
/-!
Doubles, and the double that a decimal numeral stands for. A numeral is read as a whole number of at
most 64 bits times a power of ten, and rounded once for the whole number and once for the power.
-/
namespace PipelineObserver

/-- A finite or infinite binary number of 64 bits, kept by its bit pattern, so that the two zeros
differ and equality is decidable. -/
structure Double where
  bits : UInt64
  deriving DecidableEq, Inhabited

namespace Double

/-- Ten to the power `e`, for `e` up to 308, rounded to the nearest double. -/
def powerOfTen (e : Nat) : Float := Float.ofScientific 1 false e

/-- Multiplies by a power of ten. There is no answer when the product is too great for a double; a
quotient too small for one is zero. Powers below `-308` are divided out in pieces. -/
def scale? (x : Float) (e : Int) : Option Float :=
  if e.natAbs ≤ 308 then
    if 0 ≤ e then
      let y := x * powerOfTen e.natAbs
      if y.isInf then none else some y
    else some (x / powerOfTen e.natAbs)
  else if x == 0 then some x
  else if 0 ≤ e then none
  else scale? (x / powerOfTen 308) (e + 308)
termination_by e.natAbs
decreasing_by omega

/-- The double of `significand` times ten to the power `exponent`, negated if asked for. -/
def ofDecimal? (negative : Bool) (significand : Nat) (exponent : Int) : Option Double :=
  (scale? significand.toUInt64.toFloat exponent).map fun x =>
    ⟨(if negative then -x else x).toBits⟩

/-- Reads digits into a number as long as it fits 64 bits; the digits left over come second. -/
def absorb (acc : Nat) : List Nat → Nat × List Nat
  | [] => (acc, [])
  | d :: rest =>
    if acc * 10 + d ≤ Bounds.greatestUnsigned64 then absorb (acc * 10 + d) rest
    else (acc, d :: rest)

/-- The double of a numeral with the given digits before and after its point. Digits that no longer
fit the significand count as zeros before the point and are left out after it. -/
def ofDigits? (negative : Bool) (whole fraction : List Nat) (exponent : Int) : Option Double :=
  let (high, dropped) := absorb 0 whole
  let (significand, cut) := absorb high fraction
  ofDecimal? negative significand
    (exponent + dropped.length - (fraction.length - cut.length : Nat))

end Double

end PipelineObserver
