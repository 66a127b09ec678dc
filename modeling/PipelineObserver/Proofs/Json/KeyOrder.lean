/-!
Names are compared by their characters. That is the order of their bytes: `bytes_lt_of_lt`.
-/
namespace PipelineObserver.Text

/-- The bytes of a text in UTF-8. -/
def bytes (s : String) : List UInt8 := s.toByteArray.data.toList

theorem bytes_eq (s : String) : bytes s = s.toList.flatMap String.utf8EncodeChar := by
  rw [bytes, ← String.utf8Encode_toList, List.utf8Encode, List.data_toByteArray]

theorem ofNat_lt_iff {m n : Nat} (hm : m < 256) (hn : n < 256) :
    UInt8.ofNat m < UInt8.ofNat n ↔ m < n := by
  rw [UInt8.lt_iff_toNat_lt, UInt8.toNat_ofNat_of_lt' hm, UInt8.toNat_ofNat_of_lt' hn]

theorem ofNat_eq_iff {m n : Nat} (hm : m < 256) (hn : n < 256) :
    UInt8.ofNat m = UInt8.ofNat n ↔ m = n := by
  rw [← UInt8.toNat_inj, UInt8.toNat_ofNat_of_lt' hm, UInt8.toNat_ofNat_of_lt' hn]

theorem toNat_lt_limit (c : Char) : c.val.toNat < 0x110000 := by
  rcases c.valid with hc | hc
  · have hlow : c.val.toNat < 0xD800 := hc
    omega
  · exact hc.2

/-- The bytes of the lesser character come first, whatever follows: the first byte tells how many
there are, and among as many bytes the first ones weigh most. -/
theorem encode_append_lt {c d : Char} (h : c < d) (xs ys : List UInt8) :
    String.utf8EncodeChar c ++ xs < String.utf8EncodeChar d ++ ys := by
  have hlt : c.val.toNat < d.val.toNat := h
  have hd : d.val.toNat < 0x110000 := toNat_lt_limit d
  unfold String.utf8EncodeChar
  generalize c.val.toNat = m at hlt
  generalize d.val.toNat = n at hlt hd
  dsimp only
  split <;> split <;> (try split) <;> (try split) <;> (try split) <;> (try split) <;> try omega
  all_goals
    simp only [List.cons_append, List.nil_append, List.cons_lt_cons_iff]
    simp (disch := omega) only [ofNat_lt_iff, ofNat_eq_iff]
    try omega
  -- Four bytes each: the first place where they differ decides.
  by_cases hfirst : m / 262144 = n / 262144
  · by_cases hsecond : m / 4096 = n / 4096
    · by_cases hthird : m / 64 = n / 64
      · have hlast : m % 64 < n % 64 := by omega
        simp [hfirst, hsecond, hthird, hlast]
      · have hless : m / 64 % 64 < n / 64 % 64 := by omega
        simp [hfirst, hsecond, hless]
    · have hless : m / 4096 % 64 < n / 4096 % 64 := by omega
      simp [hfirst, hless]
  · have hless : m / 262144 % 8 < n / 262144 % 8 := by omega
    simp [hless]

theorem flatMap_encode_lt {cs ds : List Char} (h : cs < ds) :
    cs.flatMap String.utf8EncodeChar < ds.flatMap String.utf8EncodeChar := by
  induction cs generalizing ds with
  | nil =>
    cases ds with
    | nil => exact absurd h (List.lt_irrefl _)
    | cons d ds =>
      have hne : String.utf8EncodeChar d ≠ [] := String.utf8EncodeChar_ne_nil
      obtain ⟨b, bs, hbytes⟩ := List.exists_cons_of_ne_nil hne
      rw [List.flatMap_cons, hbytes]
      exact List.nil_lt_cons ..
  | cons c cs ih =>
    cases ds with
    | nil => exact absurd h (List.not_lt_nil _)
    | cons d ds =>
      rw [List.flatMap_cons, List.flatMap_cons]
      rcases List.cons_lt_cons_iff.mp h with hlt | ⟨rfl, hlt⟩
      · exact encode_append_lt hlt _ _
      · exact List.append_left_lt (ih hlt)

/-- Texts are in the order of their bytes. -/
theorem bytes_lt_of_lt {a b : String} (h : a < b) : bytes a < bytes b := by
  rw [bytes_eq, bytes_eq]
  exact flatMap_encode_lt (String.lt_iff.mp h)

end PipelineObserver.Text
