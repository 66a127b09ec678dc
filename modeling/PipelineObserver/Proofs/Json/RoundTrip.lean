import PipelineObserver.Json.Printer
import PipelineObserver.Json.Tree
/-!
Documents of texts: objects within objects that hold nothing but texts. What is written for such a
document is read as the document again: `parse?_render`.
-/
namespace PipelineObserver.Json

/-- Objects within objects, at most so deep, with texts inside. -/
inductive Textual : Nat → Json → Prop
  | text {levels : Nat} (s : String) : Textual levels (.text s)
  | object {levels : Nat} {members : Table Json} (ordered : members.Ordered)
      (inside : ∀ entry ∈ members, Textual levels entry.2) : Textual (levels + 1) (.object members)

/-! ### Strings -/

theorem spelled?_unit {n : Nat} (h : n < 0xD800) (ps : List Piece) :
    spelled? (.unit n :: ps) = (spelled? ps).map (Char.ofNat n :: ·) := by
  have hlow : ¬ (0xDC00 ≤ n ∧ n < 0xE000) := by omega
  have hhigh : ¬ (0xD800 ≤ n ∧ n < 0xDC00) := by omega
  cases ps with
  | nil => simp [spelled?, hlow, hhigh]
  | cons p ps => cases p <;> simp [spelled?, hlow, hhigh]

theorem hexUnit?_control : ∀ n < 0x20,
    hexUnit? '0' '0' (Text.lowerHexDigit (n / 16)) (Text.lowerHexDigit (n % 16)) = some n := by
  decide

/-- A character is quoted as one piece, which spells it. -/
theorem pieces?_quoteChar (c : Char) : ∃ p : Piece,
    (∀ seen rest, pieces? seen (quoteChar c ++ rest) = pieces? (p :: seen) rest) ∧
      ∀ ps, spelled? (p :: ps) = (spelled? ps).map (c :: ·) := by
  unfold quoteChar
  split
  case h_8 d hquote hbackslash _ _ _ _ _ =>
    by_cases hcontrol : c.toNat < 0x20
    · refine ⟨.unit c.toNat, fun seen rest => ?_, fun ps => ?_⟩
      · rw [if_pos hcontrol]
        simp [pieces?, hexUnit?_control c.toNat hcontrol]
      · rw [spelled?_unit (by omega), Char.ofNat_toNat]
    · refine ⟨.char c, fun seen rest => ?_, fun ps => rfl⟩
      rw [if_neg hcontrol, List.singleton_append]
      rw [pieces?, if_neg hcontrol]
      · exact hquote
      · exact fun _ _ _ _ _ h => absurd h hbackslash
      · exact fun _ _ h => absurd h hbackslash
  all_goals exact ⟨.char _, fun seen rest => by simp [pieces?, escape?], fun ps => rfl⟩

theorem pieces?_quoted (cs : List Char) : ∃ ps : List Piece,
    (∀ seen rest, pieces? seen (cs.flatMap quoteChar ++ '"' :: rest) =
      some (ps.reverse ++ seen, rest)) ∧ spelled? ps = some cs := by
  induction cs with
  | nil => exact ⟨[], fun seen rest => by simp [pieces?], rfl⟩
  | cons c cs ih =>
    obtain ⟨p, hp, hspelled⟩ := pieces?_quoteChar c
    obtain ⟨ps, hps, hspells⟩ := ih
    refine ⟨p :: ps, fun seen rest => ?_, ?_⟩
    · rw [List.flatMap_cons, List.append_assoc, hp, hps, List.reverse_cons, List.append_assoc]
      rfl
    · rw [hspelled, hspells]
      rfl

/-! ### Tokens -/

/-- The tokens of some characters, whatever stands before and after them. -/
def Tokens (cs : List Char) (ts : List Token) : Prop :=
  ∀ seen rest, Token.scan? seen (cs ++ rest) = Token.scan? (ts.reverse ++ seen) rest

theorem Tokens.append {cs cs' : List Char} {ts ts' : List Token} (h : Tokens cs ts)
    (h' : Tokens cs' ts') : Tokens (cs ++ cs') (ts ++ ts') := by
  intro seen rest
  rw [List.append_assoc, h, h', List.reverse_append, List.append_assoc]

theorem tokens_quote (s : String) : Tokens (quote s).toList [.text (some s)] := by
  intro seen rest
  obtain ⟨ps, hps, hspelled⟩ := pieces?_quoted s.toList
  have hchars : (quote s).toList ++ rest = '"' :: (s.toList.flatMap quoteChar ++ '"' :: rest) := by
    simp [quote]
  rw [hchars, Token.scan?, if_neg (by decide), if_pos rfl]
  split
  case h_1 hnone => simp [hps] at hnone
  case h_2 ps' after hsome =>
    rw [hps, List.append_nil] at hsome
    obtain ⟨rfl, rfl⟩ := Prod.mk.inj (Option.some.inj hsome)
    rw [List.reverse_reverse, hspelled]
    simp

theorem tokens_punctuation {c : Char} {t : Token} (h : Token.ofPunctuation? c = some t) :
    Tokens [c] [t] := by
  intro seen rest
  have hothers : isBlank c = false ∧ c ≠ '"' ∧ ¬ (c.isDigit = true ∨ c = '-') ∧
      c.isAlpha = false := by
    unfold Token.ofPunctuation? at h
    split at h
    case h_7 => cases h
    all_goals decide
  obtain ⟨hblank, hquote, hnumber, hword⟩ := hothers
  rw [List.singleton_append, Token.scan?]
  simp [hblank, hquote, hnumber, hword, h]

/-! ### Trees -/

/-- Some characters are a value: wherever a value may stand, their tokens lead to a tree of it. -/
structure Spells (levels : Nat) (cs : List Char) (ts : List Token) (tree : Tree) (v : Json) :
    Prop where
  tokens : Tokens cs ts
  placed : ∀ frames, ts.foldlM Tree.State.step? (.reading .value frames) = some (.place tree frames)
  value : tree.value? levels = some v

theorem spells_text (levels : Nat) (s : String) :
    Spells levels (render (.text s)).toList [.text (some s)] (.text (some s)) (.text s) where
  tokens := tokens_quote s
  placed _ := rfl
  value := rfl

/-- Some characters are members of an object: wherever a key may stand, their tokens lead to trees
of the members. -/
structure SpellsMembers (levels : Nat) (cs : List Char) (ts : List Token)
    (trees : List (Option String × Tree)) (members : Table Json) : Prop where
  tokens : Tokens cs ts
  placed : ∀ place seen key frames, place = .firstKey ∨ place = .key → ∃ last,
    ts.foldlM Tree.State.step? (.reading place (.object seen key :: frames)) =
      some (.reading .separator (.object (trees.reverse ++ seen) last :: frames))
  value : Tree.memberValues? levels trees = some members

theorem spells_member {levels : Nat} (k : String) {v : Json} {ts : List Token} {tree : Tree}
    (h : Spells levels v.render.toList ts tree v) :
    SpellsMembers levels (quote k ++ ":" ++ v.render).toList (.text (some k) :: .colon :: ts)
      [(some k, tree)] [(k, v)] where
  tokens := by
    have hcolon : Tokens [':'] [.colon] := tokens_punctuation rfl
    have hall := ((tokens_quote k).append hcolon).append h.tokens
    simpa using hall
  placed := by
    intro place seen key frames hplace
    refine ⟨some k, ?_⟩
    rcases hplace with rfl | rfl <;>
      simp [Tree.State.step?, Tree.State.key?, h.placed, Tree.State.place]
  value := by simp [Tree.memberValues?, h.value]

theorem SpellsMembers.cons {levels : Nat} {cs cs' : List Char} {ts ts' : List Token}
    {tree : Option String × Tree} {trees : List (Option String × Tree)} {m : String × Json}
    {members : Table Json} (h : SpellsMembers levels cs ts [tree] [m])
    (h' : SpellsMembers levels cs' ts' trees members) :
    SpellsMembers levels (cs ++ ',' :: cs') (ts ++ .comma :: ts') (tree :: trees)
      (m :: members) where
  tokens := by
    have hcomma : Tokens [','] [.comma] := tokens_punctuation rfl
    have hall := (h.tokens.append hcomma).append h'.tokens
    simpa using hall
  placed := by
    intro place seen key frames hplace
    obtain ⟨first, hfirst⟩ := h.placed place seen key frames hplace
    obtain ⟨last, hlast⟩ := h'.placed .key ([tree].reverse ++ seen) first frames (.inr rfl)
    refine ⟨last, ?_⟩
    rw [List.foldlM_append, hfirst]
    simpa [Tree.State.step?, Tree.State.next?] using hlast
  value := by
    have hone := h.value
    have hrest := h'.value
    obtain ⟨key, t⟩ := tree
    obtain ⟨k, v⟩ := m
    cases key with
    | none => simp [Tree.memberValues?] at hone
    | some key =>
      cases ht : t.value? levels with
      | none => simp [Tree.memberValues?, ht] at hone
      | some w =>
        simp only [Tree.memberValues?, ht, Option.some.injEq, List.cons.injEq, and_true] at hone
        simp only [Tree.memberValues?, ht, hrest, hone]

theorem spellsMembers {levels : Nat} (m : String × Json) (members : Table Json)
    (h : ∀ entry ∈ m :: members, ∃ ts tree, Spells levels entry.2.render.toList ts tree entry.2) :
    ∃ ts trees, SpellsMembers levels (",".intercalate (renderMembers (m :: members))).toList ts
      trees (m :: members) := by
  obtain ⟨ts, tree, hv⟩ := h m List.mem_cons_self
  have hfirst := spells_member m.1 hv
  induction members generalizing m ts tree with
  | nil => exact ⟨_, _, by simpa [renderMembers] using hfirst⟩
  | cons next members ih =>
    have hrest : ∀ entry ∈ next :: members, _ := fun entry he => h entry (List.mem_cons_of_mem _ he)
    obtain ⟨ts', tree', hnext⟩ := hrest next List.mem_cons_self
    obtain ⟨ts'', trees, hmore⟩ := ih next hrest ts' tree' hnext (spells_member next.1 hnext)
    exact ⟨_, _, by simpa [renderMembers] using hfirst.cons hmore⟩

theorem spells_object {levels : Nat} {members : Table Json} (ordered : members.Ordered)
    (h : ∀ entry ∈ members, ∃ ts tree, Spells levels entry.2.render.toList ts tree entry.2) :
    ∃ ts tree, Spells (levels + 1) (render (.object members)).toList ts tree (.object members) := by
  have hopen : Tokens ['{'] [.openObject] := tokens_punctuation rfl
  have hclose : Tokens ['}'] [.closeObject] := tokens_punctuation rfl
  cases members with
  | nil =>
    refine ⟨[.openObject, .closeObject], .object [], ?_, fun frames => rfl, rfl⟩
    have hall := hopen.append hclose
    simpa [render, renderMembers] using hall
  | cons m members =>
    obtain ⟨ts, trees, hm⟩ := spellsMembers m members h
    refine ⟨.openObject :: ts ++ [.closeObject], .object trees, ?_, fun frames => ?_, ?_⟩
    · have hall := (hopen.append hm.tokens).append hclose
      simpa [render] using hall
    · obtain ⟨last, hlast⟩ := hm.placed .firstKey [] none frames (.inl rfl)
      rw [List.foldlM_append]
      simp [Tree.State.step?, Tree.State.start?, hlast, Tree.State.close?]
    · simp only [Tree.value?, hm.value, Option.map_some, ofMembers, Table.ofList_of_ordered ordered]

theorem Textual.spells {levels : Nat} {v : Json} (h : Textual levels v) :
    ∃ ts tree, Spells levels v.render.toList ts tree v := by
  induction h with
  | text s => exact ⟨_, _, spells_text _ s⟩
  | object ordered _ ih => exact spells_object ordered ih

/-- The text that is written for a document of texts is read as the document. -/
theorem parse?_render {v : Json} (h : Textual deepest v) : parse? v.render = some v := by
  obtain ⟨ts, tree, hv⟩ := h.spells
  have hscan := hv.tokens [] []
  rw [List.append_nil, List.append_nil, Token.scan?] at hscan
  simp [parse?, Tree.ofString?, Token.ofString?, hscan, Tree.ofTokens?, hv.placed, Tree.State.place,
    hv.value]

end PipelineObserver.Json
