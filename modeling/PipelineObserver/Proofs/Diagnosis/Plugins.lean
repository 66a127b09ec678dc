import Mathlib.Data.List.Forall2
import PipelineObserver.Diagnosis.Embedded
import PipelineObserver.Proofs.Diagnosis.Completeness
import PipelineObserver.Proofs.Json.Canonical
import PipelineObserver.Proofs.Json.KeyOrder
import PipelineObserver.Proofs.Tracker.Agreement
/-!
The errors of plugins lie two objects deep in a result, and each object on the way may be spelled in
a string. They are read alike, however it is: `plugin_errors_read_alike`.
-/
namespace PipelineObserver

/-- A value gives an object: as it stands, or in a string that spells the object in JSON. A string
that spells another string gives none, whatever that one spells. -/
inductive Json.Gives : Json → Table Json → Prop
  | inline (members : Table Json) : Gives (.object members) members
  | spelled {text : String} {members : Table Json}
      (h : Json.parse? text = some (.object members)) : Gives (.text text) members

namespace Json

theorem embeddedObject?_eq_some {v : Json} {members : Table Json} :
    v.embeddedObject? = some members ↔ v.Gives members := by
  constructor
  · intro h
    unfold embeddedObject? decoded at h
    split at h
    · rename_i text
      cases hparse : parse? text with
      | none =>
        rw [hparse] at h
        cases h
      | some value =>
        rw [hparse, Option.getD_some] at h
        cases value <;> cases h
        exact .spelled hparse
    · cases v <;> cases h
      exact .inline members
  · intro h
    cases h with
    | inline => rfl
    | spelled h => rw [embeddedObject?, decoded, h, Option.getD_some, object?]

/-- The members of an object that is given are canonical, and in the order of their keys. -/
theorem Gives.canonical {v : Json} {members : Table Json} (h : v.Gives members)
    (hv : v.Canonical) : (Json.object members).Canonical := by
  cases h with
  | inline => exact hv
  | spelled h => exact canonical_of_parse? h

theorem Canonical.get? {name : String} {members : Table Json} {v : Json}
    (h : (Json.object members).Canonical) (hv : Table.get? name members = some v) :
    v.Canonical := by
  cases h with
  | object _ inside => exact inside _ (Table.mem_of_get? hv)

end Json

/-! ### Snapshots of canonical documents -/

namespace Document

theorem canonical_of_fields? {names : List String} {doc : Json} {fields : Table Json}
    (h : Json.fields? names doc = some fields) (hdoc : doc.Canonical) :
    ∀ entry ∈ fields, entry.2.Canonical := by
  cases hdoc with
  | object _ inside =>
    obtain rfl := Option.some.inj h
    exact inside
  | @array elements inside =>
    by_cases hlength : elements.length ≤ names.length
    · rw [Json.fields?, if_pos hlength] at h
      obtain rfl := Option.some.inj h
      intro ⟨name, v⟩ hentry
      exact inside v (List.of_mem_zip hentry).2
    · rw [Json.fields?, if_neg hlength] at h
      cases h
  | _ => cases h

theorem canonical_of_given? {name : String} {fields : Table Json} {v : Json}
    (h : Json.given? name fields = some v) (hfields : ∀ entry ∈ fields, entry.2.Canonical) :
    v.Canonical := by
  obtain ⟨hget, -⟩ := Option.filter_eq_some_iff.mp h
  exact hfields _ (Table.mem_of_get? hget)

theorem canonical_of_result? {doc : Json} {r : NamedResult} (h : result? doc = some r)
    (hdoc : doc.Canonical) : r.value.Canonical := by
  simp only [result?, Option.bind_eq_bind, Option.bind_eq_some_iff, Option.pure_def,
    Option.some.injEq] at h
  obtain ⟨fields, hfields, name, -, rfl⟩ := h
  cases hvalue : Table.get? "value" fields with
  | none => exact .null
  | some v => exact canonical_of_fields? hfields hdoc _ (Table.mem_of_get? hvalue)

theorem forall_of_mapM {α β : Type} {decode : α → Option β} {P : β → Prop} {as : List α}
    {bs : List β} (h : as.mapM decode = some bs)
    (each : ∀ a ∈ as, ∀ b, decode a = some b → P b) : ∀ b ∈ bs, P b := by
  induction as generalizing bs with
  | nil =>
    cases h
    exact nofun
  | cons a rest ih =>
    simp only [List.mapM_cons, Option.bind_eq_bind, Option.bind_eq_some_iff, Option.pure_def,
      Option.some.injEq] at h
    obtain ⟨b, hb, more, hmore, rfl⟩ := h
    obtain ⟨hfirst, hrest⟩ := List.forall_mem_cons.mp each
    exact List.forall_mem_cons.mpr ⟨hfirst b hb, ih hmore hrest⟩

theorem canonical_of_results {name : String} {fields : Table Json}
    {results : Option (List NamedResult)}
    (h : Json.optional? (Json.list? result?) name fields = some results)
    (hfields : ∀ entry ∈ fields, entry.2.Canonical) :
    ∀ r ∈ results.getD [], r.value.Canonical := by
  rcases Json.optional?_eq_some h with ⟨-, rfl⟩ | ⟨v, found, hv, hfound, rfl⟩
  · exact nofun
  · have hcanonical := canonical_of_given? hv hfields
    cases hcanonical with
    | @array elements inside =>
      exact forall_of_mapM hfound fun doc hdoc r hr => canonical_of_result? hr (inside doc hdoc)
    | _ => cases hfound

/-- The results in a snapshot are canonical if its document is. -/
theorem canonical_results {k : Kind} {doc : Json} {s : Snapshot}
    (h : Snapshot.ofDocument? k doc = some s) (hdoc : doc.Canonical) :
    ∀ r ∈ s.results, r.value.Canonical := by
  simp only [Snapshot.ofDocument?, Option.bind_eq_bind, Option.bind_eq_some_iff, Option.pure_def,
    Option.some.injEq] at h
  obtain ⟨fields, hfields, -, -, -, -, status, hstatus, rfl⟩ := h
  rcases Json.optional?_eq_some hstatus with ⟨-, rfl⟩ | ⟨v, block, hv, hblock, rfl⟩
  · intro r hr
    cases hr
  · have hv := canonical_of_given? hv (canonical_of_fields? hfields hdoc)
    simp only [status?, Option.bind_eq_bind, Option.bind_eq_some_iff, Option.pure_def,
      Option.some.injEq] at hblock
    obtain ⟨inner, hinner, -, -, -, -, -, -, -, -, -, -, -, -, task, htask, pipeline, hpipeline,
      other, hother, -, -, rfl⟩ := hblock
    have hall := canonical_of_fields? hinner hv
    refine List.forall_mem_append.mpr ⟨List.forall_mem_append.mpr ⟨?_, ?_⟩, ?_⟩
    · exact canonical_of_results htask hall
    · exact canonical_of_results hpipeline hall
    · exact canonical_of_results hother hall

end Document

/-! ### The way to the errors -/

namespace Diagnosis

open Json

/-- The snapshot carries the errors: the first result under the name for annotations gives an
object, which gives one under the name for metadata, which gives the errors. Each of them may have
other members. -/
inductive Carries (s : Snapshot) (errors : Table Json) : Prop
  | intro {before after : List NamedResult} {result : Json} {annotations metadata : Table Json}
      {inner innermost : Json}
      (results : s.results = before ++ ⟨"annotations", result⟩ :: after)
      (first : ∀ r ∈ before, r.name ≠ "annotations")
      (outer : result.Gives annotations)
      (inside : Table.get? "plugins-metadata" annotations = some inner)
      (middle : inner.Gives metadata)
      (within : Table.get? "errors" metadata = some innermost)
      (last : innermost.Gives errors)

/-- The record of one member of the errors. A string is the detail as it stands, also if it spells
something in JSON; any other value is shown in JSON. -/
inductive Tells : String × Json → ErrorRecord → Prop
  | text (plugin detail : String) : Tells (plugin, .text detail) ⟨.plugin, plugin, detail⟩
  | other (plugin : String) {error : Json} (h : ∀ s, error ≠ .text s) :
      Tells (plugin, error) ⟨.plugin, plugin, error.render⟩

variable {s : Snapshot} {errors : Table Json}

theorem result?_eq_some {name : String} {v : Json} : s.result? name = some v ↔
    ∃ before after, s.results = before ++ ⟨name, v⟩ :: after ∧ ∀ r ∈ before, r.name ≠ name := by
  unfold Snapshot.result?
  rw [Option.map_eq_some_iff]
  constructor
  · rintro ⟨r, hfind, rfl⟩
    obtain ⟨hname, before, after, hresults, hbefore⟩ := List.find?_eq_some_iff_append.mp hfind
    have hname : r.name = name := of_decide_eq_true hname
    subst hname
    exact ⟨before, after, hresults, fun x hx => by simpa using hbefore x hx⟩
  · rintro ⟨before, after, hresults, hbefore⟩
    refine ⟨⟨name, v⟩, ?_, rfl⟩
    refine List.find?_eq_some_iff_append.mpr ⟨by simp, before, after, hresults, ?_⟩
    exact fun x hx => by simpa using hbefore x hx

theorem errorsByPlugin?_eq_some {v : Json} : errorsByPlugin? v = some errors ↔
    ∃ annotations inner metadata innermost, v.Gives annotations ∧
      Table.get? "plugins-metadata" annotations = some inner ∧ inner.Gives metadata ∧
      Table.get? "errors" metadata = some innermost ∧ innermost.Gives errors := by
  simp only [errorsByPlugin?, Option.bind_eq_bind, Option.bind_eq_some_iff,
    embeddedObject?_eq_some]
  constructor
  · rintro ⟨annotations, houter, inner, hinside, metadata, hmiddle, innermost, hwithin, hlast⟩
    exact ⟨annotations, inner, metadata, innermost, houter, hinside, hmiddle, hwithin, hlast⟩
  · rintro ⟨annotations, inner, metadata, innermost, houter, hinside, hmiddle, hwithin, hlast⟩
    exact ⟨annotations, houter, inner, hinside, metadata, hmiddle, innermost, hwithin, hlast⟩

theorem carries_iff :
    (s.result? pluginResult).bind errorsByPlugin? = some errors ↔ Carries s errors := by
  rw [Option.bind_eq_some_iff]
  constructor
  · rintro ⟨v, hv, herrors⟩
    obtain ⟨before, after, hresults, hfirst⟩ := result?_eq_some.mp hv
    obtain ⟨_, _, _, _, houter, hinside, hmiddle, hwithin, hlast⟩ :=
      errorsByPlugin?_eq_some.mp herrors
    exact ⟨hresults, hfirst, houter, hinside, hmiddle, hwithin, hlast⟩
  · rintro ⟨hresults, hfirst, houter, hinside, hmiddle, hwithin, hlast⟩
    refine ⟨_, result?_eq_some.mpr ⟨_, _, hresults, hfirst⟩, ?_⟩
    exact errorsByPlugin?_eq_some.mpr ⟨_, _, _, _, houter, hinside, hmiddle, hwithin, hlast⟩

/-- All that is given on the way to the errors is canonical, so they are in the order of their
keys. -/
theorem Carries.ordered (h : Carries s errors) (canonical : ∀ r ∈ s.results, r.value.Canonical) :
    errors.Ordered := by
  cases h with
  | intro results _ outer inside middle within last =>
    have hresult := canonical _ (results ▸ List.mem_append_right _ List.mem_cons_self)
    have hannotations := outer.canonical hresult
    have hmetadata := middle.canonical (hannotations.get? inside)
    have herrors := last.canonical (hmetadata.get? within)
    cases herrors with
    | object ordered _ => exact ordered

theorem tells_pluginError (plugin : String) (error : Json) :
    Tells (plugin, error) (pluginError plugin error) := by
  cases error with
  | text detail => exact .text plugin detail
  | _ => exact .other plugin nofun

theorem Tells.identifier {member : String × Json} {r : ErrorRecord} (h : Tells member r) :
    r.identifier = member.1 := by
  cases h <;> rfl

theorem pluginErrors_of_carries (h : Carries s errors) :
    pluginErrors s = errors.map fun (plugin, error) => pluginError plugin error := by
  unfold pluginErrors
  rw [carries_iff.mpr h]

theorem pluginErrors_of_not_carries (h : ∀ errors, ¬ Carries s errors) : pluginErrors s = [] := by
  have hnone : (s.result? pluginResult).bind errorsByPlugin? = none := by
    rw [Option.eq_none_iff_forall_ne_some]
    exact fun errors herrors => h errors (carries_iff.mp herrors)
  unfold pluginErrors
  rw [hnone]

/-- However the objects on the way to the errors are given, there is one record for each member of
the errors, and the records stand in the order of the bytes of the names. If the way breaks off
anywhere, there is none. -/
theorem plugin_errors_read_alike (canonical : ∀ r ∈ s.results, r.value.Canonical) :
    (∀ errors, Carries s errors → List.Forall₂ Tells errors (pluginErrors s) ∧
      (pluginErrors s).Pairwise fun a b => Text.bytes a.identifier < Text.bytes b.identifier) ∧
    ((∀ errors, ¬ Carries s errors) → pluginErrors s = []) := by
  refine ⟨fun errors h => ?_, pluginErrors_of_not_carries⟩
  rw [pluginErrors_of_carries h]
  constructor
  · rw [List.forall₂_map_right_iff, List.forall₂_same]
    exact fun member _ => tells_pluginError member.1 member.2
  · rw [List.pairwise_map]
    refine (h.ordered canonical).imp fun {a b} hlt => ?_
    rw [(tells_pluginError a.1 a.2).identifier, (tells_pluginError b.1 b.2).identifier]
    exact Text.bytes_lt_of_lt hlt

/-- The annotations are spelled in a string, the metadata stand as they are, and the errors are
spelled again. One of the errors is a string that looks like the other one. -/
def lintReport : String :=
  statusDocument ("\"taskResults\":[\x7b\"name\":\"annotations\",\"value\":" ++
    (Json.text (Json.ofMembers [("plugins-metadata", .ofMembers [("errors",
      .text (Json.ofMembers [("lint", .text "[1]"), ("scan", .array [.ofInt 1])]).render)])]).render
    ).render ++ "\x7d]")

theorem plugin_errors_read_alike_lint : ∃ s,
    (Json.parse? lintReport).bind (Snapshot.ofDocument? .taskRun) = some s ∧
    List.Forall₂ Tells [("lint", .text "[1]"), ("scan", .array [.ofInt 1])] (pluginErrors s) := by
  have hall : ((Json.parse? lintReport).bind (Snapshot.ofDocument? .taskRun)).bind
      (fun s => (s.result? pluginResult).bind errorsByPlugin?) =
        some [("lint", .text "[1]"), ("scan", .array [.ofInt 1])] := by decide +kernel
  obtain ⟨s, hs, hcarried⟩ := Option.bind_eq_some_iff.mp hall
  obtain ⟨doc, hdoc, hsnapshot⟩ := Option.bind_eq_some_iff.mp hs
  have hcanonical := Document.canonical_results hsnapshot (Json.canonical_of_parse? hdoc)
  exact ⟨s, hs, ((plugin_errors_read_alike hcanonical).1 _ (carries_iff.mp hcarried)).1⟩

end Diagnosis

end PipelineObserver
