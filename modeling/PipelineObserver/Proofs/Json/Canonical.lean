import PipelineObserver.Json.Tree
/-!
Canonical values: the members of every object stand in the order of their keys. Whatever is read
from a text is such a value: `canonical_of_parse?`.
-/
namespace PipelineObserver.Json

/-- The members of every object in a value stand in increasing order of their keys. -/
inductive Canonical : Json → Prop
  | null : Canonical .null
  | bool (b : Bool) : Canonical (.bool b)
  | number (n : Number) : Canonical (.number n)
  | text (s : String) : Canonical (.text s)
  | array {elements : List Json} (inside : ∀ v ∈ elements, Canonical v) :
      Canonical (.array elements)
  | object {members : Table Json} (ordered : members.Ordered)
      (inside : ∀ entry ∈ members, Canonical entry.2) : Canonical (.object members)

theorem canonical_ofMembers {members : List (String × Json)}
    (inside : ∀ entry ∈ members, Canonical entry.2) : Canonical (.ofMembers members) :=
  .object (Table.ordered_foldl_insert members .nil) fun entry he =>
    inside entry ((Table.mem_foldl_insert he).resolve_right List.not_mem_nil)

mutual

theorem canonical_of_value? {levels : Nat} : ∀ {t : Tree} {v : Json},
    t.value? levels = some v → v.Canonical
  | .null, v, h => by
    cases h
    exact .null
  | .bool b, v, h => by
    cases h
    exact .bool b
  | .number n, v, h => by
    obtain ⟨x, -, rfl⟩ := Option.map_eq_some_iff.mp h
    exact .number x
  | .text s, v, h => by
    obtain ⟨x, -, rfl⟩ := Option.map_eq_some_iff.mp h
    exact .text x
  | .array elements, v, h => by
    cases levels with
    | zero => cases h
    | succ levels =>
      obtain ⟨vs, hvs, rfl⟩ := Option.map_eq_some_iff.mp h
      exact .array (canonical_of_values? hvs)
  | .object members, v, h => by
    cases levels with
    | zero => cases h
    | succ levels =>
      obtain ⟨ms, hms, rfl⟩ := Option.map_eq_some_iff.mp h
      exact canonical_ofMembers (canonical_of_memberValues? hms)

theorem canonical_of_values? {levels : Nat} : ∀ {ts : List Tree} {vs : List Json},
    Tree.values? levels ts = some vs → ∀ v ∈ vs, v.Canonical
  | [], vs, h => by
    cases h
    simp
  | t :: ts, vs, h => by
    rw [Tree.values?] at h
    split at h
    · rename_i v vs hv hvs
      cases h
      exact List.forall_mem_cons.mpr ⟨canonical_of_value? hv, canonical_of_values? hvs⟩
    · cases h

theorem canonical_of_memberValues? {levels : Nat} : ∀ {ts : List (Option String × Tree)}
    {ms : List (String × Json)}, Tree.memberValues? levels ts = some ms → ∀ m ∈ ms, m.2.Canonical
  | [], ms, h => by
    cases h
    simp
  | (key, t) :: ts, ms, h => by
    unfold Tree.memberValues? at h
    split at h
    · rename_i k v ms hv hms
      cases h
      exact List.forall_mem_cons.mpr ⟨canonical_of_value? hv, canonical_of_memberValues? hms⟩
    · cases h

end

/-- Whatever is read is canonical. -/
theorem canonical_of_parse? {s : String} {v : Json} (h : parse? s = some v) : v.Canonical := by
  obtain ⟨t, -, hv⟩ := Option.bind_eq_some_iff.mp h
  exact canonical_of_value? hv

end PipelineObserver.Json
