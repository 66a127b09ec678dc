/-!
Finite maps from names to values, kept as lists of entries in increasing order of the names.
Looking up a name sees the last value written under it: `get?_insert`, `get?_ofList`.
-/
namespace PipelineObserver

/-- The entries of a map from names, in increasing order of the names, each name once. -/
abbrev Table (α : Type) := List (String × α)

namespace Table

variable {α : Type}

def get? (name : String) : Table α → Option α
  | [] => none
  | (key, value) :: rest => if key = name then some value else get? name rest

/-- Writes a value under a name, in place of the one that stood there. -/
def insert (name : String) (value : α) : Table α → Table α
  | [] => [(name, value)]
  | (key, old) :: rest =>
    if name < key then (name, value) :: (key, old) :: rest
    else if name = key then (name, value) :: rest
    else (key, old) :: insert name value rest

def erase (name : String) (table : Table α) : Table α :=
  table.filter fun entry => entry.1 ≠ name

/-- Writes the entries one after the other, so that the last one under a name stays. -/
def ofList (entries : List (String × α)) : Table α :=
  entries.foldl (fun table entry => insert entry.1 entry.2 table) []

@[simp] theorem get?_nil (name : String) : get? name ([] : Table α) = none := rfl

theorem get?_cons (name key : String) (value : α) (rest : Table α) :
    get? name ((key, value) :: rest) = if key = name then some value else get? name rest := rfl

theorem get?_insert (name other : String) (value : α) (table : Table α) :
    get? other (insert name value table) = if name = other then some value else get? other table := by
  induction table with
  | nil => simp [insert, get?_cons]
  | cons entry rest ih =>
    obtain ⟨key, old⟩ := entry
    unfold insert
    by_cases hlt : name < key
    · rw [if_pos hlt, get?_cons]
    · by_cases heq : name = key
      · subst heq
        rw [if_neg hlt, if_pos rfl, get?_cons, get?_cons]
        by_cases h : name = other
        · rw [if_pos h, if_pos h]
        · rw [if_neg h, if_neg h, if_neg h]
      · rw [if_neg hlt, if_neg heq, get?_cons, get?_cons, ih]
        by_cases hk : key = other
        · rw [if_pos hk, if_neg (fun h => heq (h.trans hk.symm)), if_pos hk]
        · rw [if_neg hk, if_neg hk]

theorem get?_erase (name other : String) (table : Table α) :
    get? other (erase name table) = if name = other then none else get? other table := by
  induction table with
  | nil => simp [erase]
  | cons entry rest ih =>
    obtain ⟨key, value⟩ := entry
    by_cases hkey : key = name
    · have hdropped : erase name ((key, value) :: rest) = erase name rest := by
        simp [erase, hkey]
      rw [hdropped, ih, get?_cons, hkey]
      split <;> rfl
    · have hkept : erase name ((key, value) :: rest) = (key, value) :: erase name rest := by
        simp [erase, hkey]
      rw [hkept, get?_cons, get?_cons, ih]
      by_cases hother : key = other
      · rw [if_pos hother, if_neg (fun h => hkey (hother.trans h.symm)), if_pos hother]
      · rw [if_neg hother, if_neg hother]

theorem get?_foldl_insert (name : String) (entries : List (String × α)) (table : Table α) :
    get? name (entries.foldl (fun t entry => insert entry.1 entry.2 t) table) =
      (entries.reverse.lookup name).or (get? name table) := by
  induction entries generalizing table with
  | nil => simp
  | cons entry rest ih =>
    obtain ⟨key, value⟩ := entry
    rw [List.foldl_cons, ih, get?_insert, List.reverse_cons, List.lookup_append]
    by_cases h : key = name
    · subst h
      simp
    · have h' : (name == key) = false := by simpa using fun e => h e.symm
      simp [List.lookup_cons, h, h']

/-- A table made from entries holds under each name the last value written there. -/
theorem get?_ofList (name : String) (entries : List (String × α)) :
    get? name (ofList entries) = entries.reverse.lookup name := by
  simp [ofList, get?_foldl_insert]

/-- The entries stand in increasing order of the names, each name once. -/
def Ordered (table : Table α) : Prop := table.Pairwise fun a b => a.1 < b.1

theorem insert_last {name : String} {value : α} {table : Table α}
    (h : ∀ entry ∈ table, entry.1 < name) : insert name value table = table ++ [(name, value)] := by
  induction table with
  | nil => rfl
  | cons entry rest ih =>
    obtain ⟨key, old⟩ := entry
    have hlt : key < name := h _ List.mem_cons_self
    have hne : name ≠ key := fun e => String.lt_irrefl key (e ▸ hlt)
    rw [insert, if_neg (String.lt_asymm hlt), if_neg hne, List.cons_append,
      ih fun entry he => h entry (List.mem_cons_of_mem _ he)]

theorem foldl_insert_of_ordered {table more : Table α} (h : Ordered (table ++ more)) :
    more.foldl (fun t entry => insert entry.1 entry.2 t) table = table ++ more := by
  induction more generalizing table with
  | nil => exact (List.append_nil table).symm
  | cons entry rest ih =>
    have hlast : insert entry.1 entry.2 table = table ++ [entry] :=
      insert_last fun before hb =>
        (List.pairwise_append.mp h).2.2 before hb entry List.mem_cons_self
    rw [List.foldl_cons, hlast, ih (by rwa [List.append_assoc]), List.append_assoc]
    rfl

/-- Ordered entries are the table that is made from them. -/
theorem ofList_of_ordered {table : Table α} (h : Ordered table) : ofList table = table := by
  have hnil : Ordered ([] ++ table) := h
  exact foldl_insert_of_ordered hnil

theorem get?_eq_none {name : String} {table : Table α} (h : ∀ entry ∈ table, name < entry.1) :
    get? name table = none := by
  induction table with
  | nil => rfl
  | cons entry rest ih =>
    have hlt : name < entry.1 := h entry List.mem_cons_self
    have hne : entry.1 ≠ name := fun e => String.lt_irrefl name (e ▸ hlt)
    rw [get?_cons, if_neg hne, ih fun other ho => h other (List.mem_cons_of_mem _ ho)]

theorem mem_of_get? {name : String} {value : α} {table : Table α}
    (h : get? name table = some value) : (name, value) ∈ table := by
  induction table with
  | nil => cases h
  | cons entry rest ih =>
    obtain ⟨key, other⟩ := entry
    rw [get?_cons] at h
    by_cases hkey : key = name
    · rw [if_pos hkey, Option.some.injEq] at h
      rw [hkey, h]
      exact List.mem_cons_self
    · rw [if_neg hkey] at h
      exact List.mem_cons_of_mem _ (ih h)

/-- Writing what stands there anyway changes nothing. -/
theorem insert_of_get? {name : String} {value : α} {table : Table α} (ordered : Ordered table)
    (h : get? name table = some value) : insert name value table = table := by
  induction table with
  | nil => cases h
  | cons entry rest ih =>
    obtain ⟨key, old⟩ := entry
    obtain ⟨hbefore, hrest⟩ := List.pairwise_cons.mp ordered
    rw [get?_cons] at h
    by_cases heq : key = name
    · rw [if_pos heq, Option.some.injEq] at h
      subst heq h
      simp [insert]
    · rw [if_neg heq] at h
      have hlt : ¬ name < key := by
        intro hlt
        rw [get?_eq_none fun other ho => String.lt_trans hlt (hbefore other ho)] at h
        cases h
      simp [insert, hlt, Ne.symm heq, ih hrest h]

theorem mem_insert {name : String} {value : α} {table : Table α} {entry : String × α}
    (h : entry ∈ insert name value table) : entry = (name, value) ∨ entry ∈ table := by
  induction table with
  | nil => simpa [insert] using h
  | cons first rest ih =>
    obtain ⟨key, old⟩ := first
    unfold insert at h
    split at h
    · simpa using h
    · split at h
      · rcases List.mem_cons.mp h with h | h
        · exact .inl h
        · exact .inr (List.mem_cons_of_mem _ h)
      · rcases List.mem_cons.mp h with h | h
        · exact .inr (h ▸ List.mem_cons_self)
        · exact (ih h).imp_right (List.mem_cons_of_mem _)

theorem ordered_insert {name : String} {value : α} {table : Table α} (ordered : Ordered table) :
    Ordered (insert name value table) := by
  induction table with
  | nil => exact List.pairwise_singleton _ _
  | cons first rest ih =>
    obtain ⟨key, old⟩ := first
    obtain ⟨hbefore, hrest⟩ := List.pairwise_cons.mp ordered
    unfold insert
    by_cases hlt : name < key
    · rw [if_pos hlt]
      refine List.pairwise_cons.mpr ⟨fun entry he => ?_, ordered⟩
      rcases List.mem_cons.mp he with rfl | he
      · exact hlt
      · exact String.lt_trans hlt (hbefore entry he)
    · rw [if_neg hlt]
      by_cases heq : name = key
      · subst heq
        rw [if_pos rfl]
        exact List.pairwise_cons.mpr ⟨hbefore, hrest⟩
      · rw [if_neg heq]
        refine List.pairwise_cons.mpr ⟨fun entry he => ?_, ih hrest⟩
        rcases mem_insert he with rfl | he
        · exact Std.lt_of_le_of_ne (String.not_lt.mp hlt) (Ne.symm heq)
        · exact hbefore entry he

theorem mem_foldl_insert {entries : List (String × α)} {table : Table α} {entry : String × α}
    (h : entry ∈ entries.foldl (fun t e => insert e.1 e.2 t) table) :
    entry ∈ entries ∨ entry ∈ table := by
  induction entries generalizing table with
  | nil => exact .inr h
  | cons first rest ih =>
    rcases ih h with h | h
    · exact .inl (List.mem_cons_of_mem _ h)
    · rcases mem_insert h with rfl | h
      · exact .inl List.mem_cons_self
      · exact .inr h

theorem ordered_foldl_insert (entries : List (String × α)) {table : Table α} (h : Ordered table) :
    Ordered (entries.foldl (fun t e => insert e.1 e.2 t) table) := by
  induction entries generalizing table with
  | nil => exact h
  | cons entry rest ih => exact ih (ordered_insert h)

theorem insert_insert (name : String) (value old : α) (table : Table α) :
    insert name value (insert name old table) = insert name value table := by
  induction table with
  | nil => simp [insert]
  | cons entry rest ih =>
    obtain ⟨key, other⟩ := entry
    by_cases hlt : name < key
    · simp [insert, hlt]
    · by_cases heq : name = key
      · simp [insert, heq]
      · simp [insert, hlt, heq, ih]

theorem insert_comm_of_lt {first second : String} (h : first < second) (value value' : α)
    (table : Table α) : insert first value (insert second value' table) =
      insert second value' (insert first value table) := by
  have hne : second ≠ first := fun e => String.lt_irrefl second (e ▸ h)
  have hnot : ¬ second < first := String.lt_asymm h
  induction table with
  | nil => simp [insert, h, hne, hnot]
  | cons entry rest ih =>
    obtain ⟨key, old⟩ := entry
    by_cases hlt : second < key
    · simp [insert, h, hne, hnot, hlt, String.lt_trans h hlt]
    · by_cases heq : second = key
      · subst heq
        simp [insert, h, hne, hnot]
      · by_cases hlt' : first < key
        · simp [insert, hne, hnot, hlt, heq, hlt']
        · by_cases heq' : first = key
          · simp [insert, hlt, heq, heq']
          · simp [insert, hlt, heq, hlt', heq', ih]

/-- In which order two names are written makes no difference. -/
theorem insert_comm {first second : String} (h : first ≠ second) (value value' : α)
    (table : Table α) : insert first value (insert second value' table) =
      insert second value' (insert first value table) := by
  by_cases hlt : first < second
  · exact insert_comm_of_lt hlt value value' table
  · have hgt : second < first := Std.lt_of_le_of_ne (String.not_lt.mp hlt) h.symm
    exact (insert_comm_of_lt hgt value' value table).symm

end Table

end PipelineObserver
