import PipelineObserver.Json.Value
/-!
Merge patches: what a patch makes of a document. Two documents that differ in one place only are
told by `SameBut`, and what is lost from one to the other is then lost there: `SameBut.lost`.
-/
namespace PipelineObserver.Json

mutual

/-- What a merge patch makes of a value, which may be absent. An object is merged into the members
of the value, if it is an object too; anything else takes the place of the value. -/
def merge (target : Option Json) : Json → Json
  | .object patch => .object (mergeMembers ((target.bind object?).getD []) patch)
  | v => v

/-- Merges members into others, one after the other. Null removes a member. -/
def mergeMembers (members : Table Json) : List (String × Json) → Table Json
  | [] => members
  | (key, v) :: rest =>
    mergeMembers (if v.isNull then Table.erase key members
      else Table.insert key (merge (Table.get? key members) v) members) rest

end

/-- A way from a value into one of its parts. -/
inductive Selector where
  | member (key : String)
  | element (index : Nat)

def select? (v : Json) : Selector → Option Json
  | .member key => v.get? key
  | .element i => v.array?.bind (·[i]?)

/-- What is found in a value by following selectors. -/
def at? (v : Json) : List Selector → Option Json
  | [] => some v
  | s :: path => (v.select? s).bind (at? · path)

/-- The values are the same but for what a list of keys leads to. -/
inductive SameBut : List String → Option Json → Option Json → Prop
  | here {old new : Option Json} : SameBut [] old new
  | inside {key : String} {place : List String} {members members' : Table Json}
      (others : ∀ other ≠ key, Table.get? other members' = Table.get? other members)
      (inner : SameBut place (Table.get? key members) (Table.get? key members')) :
      SameBut (key :: place) (some (.object members)) (some (.object members'))

theorem at?_append (v : Json) (path more : List Selector) :
    v.at? (path ++ more) = (v.at? path).bind (at? · more) := by
  induction path generalizing v with
  | nil => rfl
  | cons s path ih =>
    rw [List.cons_append, at?, at?]
    cases v.select? s with
    | none => rfl
    | some w => exact ih w

/-- The path along some keys. -/
def along (place : List String) : List Selector := place.map .member

/-- Whatever there was and is not any more stood beneath the one place. -/
theorem SameBut.lost {place : List String} {old new : Option Json} (h : SameBut place old new)
    {path : List Selector} (before : old.bind (at? · path) ≠ none)
    (after : new.bind (at? · path) = none) : ∃ rest, path = along place ++ rest := by
  induction h generalizing path with
  | here => exact ⟨path, rfl⟩
  | @inside key place members members' others inner ih =>
    cases path with
    | nil => cases after
    | cons s path =>
      cases s with
      | element i => exact absurd rfl before
      | member other =>
        by_cases hkey : other = key
        · subst hkey
          obtain ⟨rest, rfl⟩ := ih before after
          exact ⟨rest, rfl⟩
        · have hsame : (Table.get? other members').bind (at? · path) =
              (Table.get? other members).bind (at? · path) := by rw [others other hkey]
          exact absurd (hsame.symm.trans after) before

/-! ### Labels -/

theorem merge_text (target : Option Json) (s : String) : merge target (.text s) = .text s := rfl

theorem mergeMembers_cons (members : Table Json) (key : String) {v : Json} (h : v.isNull = false)
    (rest : List (String × Json)) : mergeMembers members ((key, v) :: rest) =
      mergeMembers (Table.insert key (merge (Table.get? key members) v) members) rest := by
  rw [mergeMembers, h]
  rfl

/-- Labels are written over those that stand there, and the others stay. -/
theorem get?_merge_labels {labels : Table String} (ordered : labels.Ordered)
    (members : Table Json) (key : String) :
    Table.get? key (mergeMembers members (labels.map fun (k, v) => (k, .text v))) =
      ((Table.get? key labels).map .text).or (Table.get? key members) := by
  induction labels generalizing members with
  | nil => simp [mergeMembers]
  | cons label rest ih =>
    obtain ⟨k, v⟩ := label
    obtain ⟨hbefore, hrest⟩ := List.pairwise_cons.mp ordered
    rw [List.map_cons, mergeMembers_cons members k rfl, merge_text, ih hrest, Table.get?_insert,
      Table.get?_cons]
    by_cases hk : k = key
    · subst hk
      rw [Table.get?_eq_none hbefore]
      simp
    · simp [hk]

end PipelineObserver.Json
