/-!
Reading whole numbers without sign that have a greatest value.
-/
namespace PipelineObserver.Text

inductive CountError where
  | empty
  | invalidDigit
  | tooLarge
  deriving DecidableEq

namespace CountError

def message : CountError → String
  | empty => "cannot parse integer from empty string"
  | invalidDigit => "invalid digit found in string"
  | tooLarge => "number too large to fit in target type"

end CountError

/-- Reads digits from the left after `acc`; the first one that is wrong or that exceeds the greatest
value decides the error. -/
def readDigits (greatest acc : Nat) : List Char → Except CountError Nat
  | [] => .ok acc
  | c :: rest =>
    if '0' ≤ c ∧ c ≤ '9' then
      let n := acc * 10 + (c.toNat - '0'.toNat)
      if n ≤ greatest then readDigits greatest n rest else .error .tooLarge
    else .error .invalidDigit

/-- Reads digits, which may follow a plus sign. -/
def readCount (greatest : Nat) (s : String) : Except CountError Nat :=
  match s.toList with
  | [] => .error .empty
  | ['+'] => .error .invalidDigit
  | '+' :: rest => readDigits greatest 0 rest
  | cs => readDigits greatest 0 cs

end PipelineObserver.Text
