/-!
Texts cut into parts at each place where a character stands. The parts put together again, with the
character between them, are the text: `intercalate_split`.
-/
namespace PipelineObserver.Text

/-- Puts a character in front of the first part. -/
def extendFirst (c : Char) : List (List Char) → List (List Char)
  | part :: rest => (c :: part) :: rest
  | [] => [[c]]

/-- The parts of a text between the places of a character. -/
def split (c : Char) (cs : List Char) : List (List Char) :=
  cs.foldr (fun d parts => if d = c then [] :: parts else extendFirst d parts) [[]]

theorem split_cons (c d : Char) (cs : List Char) :
    split c (d :: cs) = if d = c then [] :: split c cs else extendFirst d (split c cs) := rfl

theorem split_ne_nil (c : Char) (cs : List Char) : split c cs ≠ [] := by
  cases cs with
  | nil => simp [split]
  | cons d cs =>
    rw [split_cons]
    by_cases h : d = c
    · simp [h]
    · cases hs : split c cs <;> simp [h, extendFirst]

/-- The parts, with the character between them, are the text. -/
theorem intercalate_split (c : Char) (cs : List Char) : [c].intercalate (split c cs) = cs := by
  induction cs with
  | nil => rfl
  | cons d cs ih =>
    obtain ⟨part, rest, hs⟩ := List.exists_cons_of_ne_nil (split_ne_nil c cs)
    rw [hs] at ih
    rw [split_cons, hs]
    by_cases h : d = c
    · rw [if_pos h, List.intercalate_cons_of_ne_nil (by simp), ih, h]
      rfl
    · rw [if_neg h, extendFirst]
      cases rest with
      | nil => simpa using ih
      | cons next rest =>
        rw [List.intercalate_cons_of_ne_nil (by simp)] at ih ⊢
        rw [List.cons_append, List.cons_append, ih]

end PipelineObserver.Text
