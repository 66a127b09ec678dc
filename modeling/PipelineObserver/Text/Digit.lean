/-!
Digits: their values, the numbers that they spell, and the digits that write a value below sixteen.
-/
namespace PipelineObserver.Text

def digit? (c : Char) : Option Nat :=
  if '0' ≤ c ∧ c ≤ '9' then some (c.toNat - '0'.toNat) else none

def hexDigit? (c : Char) : Option Nat :=
  if '0' ≤ c ∧ c ≤ '9' then some (c.toNat - '0'.toNat)
  else if 'a' ≤ c ∧ c ≤ 'f' then some (c.toNat - 'a'.toNat + 10)
  else if 'A' ≤ c ∧ c ≤ 'F' then some (c.toNat - 'A'.toNat + 10)
  else none

def ofDigits (ds : List Nat) : Nat := ds.foldl (fun n d => n * 10 + d) 0

/-- The number that decimal digits spell, of which there is at least one. -/
def decimal? (cs : List Char) : Option Nat :=
  if cs.isEmpty then none else (cs.mapM digit?).map ofDigits

theorem digit?_digitChar {d : Nat} (h : d < 10) : digit? d.digitChar = some d := by
  revert d
  decide

theorem digits_toDigits (n : Nat) :
    ∃ ds, (Nat.toDigits 10 n).mapM digit? = some ds ∧ ofDigits ds = n := by
  induction n using Nat.strongRecOn with
  | ind n ih =>
    by_cases small : n < 10
    · refine ⟨[n], ?_, by simp [ofDigits]⟩
      rw [Nat.toDigits_of_lt_base small]
      simp [digit?_digitChar small]
    · obtain ⟨ds, hds, hn⟩ := ih (n / 10) (by omega)
      have hlast : digit? (n % 10).digitChar = some (n % 10) := digit?_digitChar (by omega)
      refine ⟨ds ++ [n % 10], ?_, ?_⟩
      · rw [Nat.toDigits_of_base_le (by decide) (by omega), List.mapM_append, hds]
        simp [hlast]
      · unfold ofDigits at hn ⊢
        rw [List.foldl_append, hn]
        simp only [List.foldl_cons, List.foldl_nil]
        omega

/-- The decimal digits of a number spell it. -/
theorem decimal?_toDigits (n : Nat) : decimal? (Nat.toDigits 10 n) = some n := by
  obtain ⟨ds, hds, hn⟩ := digits_toDigits n
  simp [decimal?, Nat.toDigits_ne_nil, hds, hn]

/-- The hexadecimal digit of a value, in lower case. -/
def lowerHexDigit (n : Nat) : Char := if n < 10 then Char.ofNat (48 + n) else Char.ofNat (87 + n)

/-- The hexadecimal digit of a value, in upper case. -/
def upperHexDigit (n : Nat) : Char := if n < 10 then Char.ofNat (48 + n) else Char.ofNat (55 + n)

end PipelineObserver.Text
