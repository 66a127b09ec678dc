import Mathlib.Logic.Relation
import PipelineObserver.Proofs.Diagnosis.Fragments
/-!
What the server may add to a document or leave out of it without a change to what is read: members
that no record declares, and declared ones that are null. Each record is read by a format, and an
edit in any place of it leaves what is read as it was: `Snapshot.tolerates_edits`.
-/
namespace PipelineObserver

/-- How a part of a document is read: as a whole, element by element, or by the fields of a record,
of which some are required. -/
inductive Format where
  | whole
  | list (element : Format)
  | record (fields required : List String) (field : String → Format)

namespace Format

def condition : Format := .record ["type", "status", "reason", "message"] [] fun _ => .whole

def child : Format := .record ["apiVersion", "kind", "name", "pipelineTaskName"] [] fun _ => .whole

def termination : Format := .record ["exitCode", "reason", "message"] [] fun _ => .whole

def step : Format := .record ["name", "container", "terminated"] [] fun
  | "terminated" => termination
  | _ => .whole

def result : Format := .record ["name", "value"] ["name"] fun _ => .whole

def status : Format := .record Document.statusFields [] fun
  | "conditions" => .list condition
  | "childReferences" => .list child
  | "steps" => .list step
  | "taskResults" | "pipelineResults" | "results" => .list result
  | _ => .whole

def metadata : Format := .record ["name", "labels", "annotations"] [] fun _ => .whole

def resource : Format := .record Document.resourceFields [] fun
  | "metadata" => metadata
  | "status" => status
  | _ => .whole

/-- One edit of a document that is read by a format, at any depth. -/
inductive Edit : Format → Json → Json → Prop
  -- A member that is not declared is added, or has another value.
  | undeclared {fields required : List String} {field : String → Format} {members : Table Json}
      (name : String) (v : Json) (h : name ∉ fields) :
      Edit (.record fields required field) (.object members) (.object (Table.insert name v members))
  -- A declared member that is null is left out.
  | dropped {fields required : List String} {field : String → Format} {members : Table Json}
      (name : String) (declared : name ∈ fields) (free : name ∉ required)
      (null : Table.get? name members = some .null) :
      Edit (.record fields required field) (.object members) (.object (Table.erase name members))
  | inside {fields required : List String} {field : String → Format} {members : Table Json}
      (name : String) {v v' : Json} (declared : name ∈ fields)
      (h : Table.get? name members = some v) (edit : Edit (field name) v v') :
      Edit (.record fields required field) (.object members)
        (.object (Table.insert name v' members))
  | element {f : Format} (before after : List Json) {v v' : Json} (edit : Edit f v v') :
      Edit (.list f) (.array (before ++ v :: after)) (.array (before ++ v' :: after))

/-- Reading comes to the same after every edit. -/
def Tolerates {α : Type} (f : Format) (decode : Json → Option α) : Prop :=
  ∀ v v', Edit f v v' → decode v' = decode v

variable {α : Type} {f : Format} {decode : Json → Option α} {fields required : List String}
  {field : String → Format} {doc doc' : Json}

theorem Edit.ne_null {v v' : Json} (h : Edit f v v') : v ≠ .null ∧ v' ≠ .null := by
  cases h <;> exact ⟨nofun, nofun⟩

theorem tolerates_whole (decode : Json → Option α) : Tolerates .whole decode :=
  fun _ _ h => nomatch h

theorem Tolerates.list? (h : f.Tolerates decode) :
    (Format.list f).Tolerates (Json.list? decode) := by
  intro v v' edit
  cases edit with
  | element before after edit =>
    have hsame := h _ _ edit
    simp only [Json.list?, List.mapM_append, List.mapM_cons, hsame]

/-- What an edit of a record does to one of its fields. -/
inductive AtField (required : List String) (f : Format) (name : String)
    (members members' : Table Json) : Prop
  | kept (h : Table.get? name members' = Table.get? name members)
  | dropped (free : name ∉ required) (null : Table.get? name members = some .null)
      (gone : Table.get? name members' = none)
  | edited {v v' : Json} (before : Table.get? name members = some v)
      (after : Table.get? name members' = some v') (edit : Edit f v v')

/-- An edit of a record leaves each of its fields as it was, drops it as a null one, or is an edit
of its value. -/
theorem Edit.at_fields (h : Edit (.record fields required field) doc doc') :
    ∃ members members', doc = .object members ∧ doc' = .object members' ∧
      ∀ name ∈ fields, AtField required (field name) name members members' := by
  cases h with
  | @undeclared _ _ _ members other v hother =>
    refine ⟨members, _, rfl, rfl, fun name hname => .kept ?_⟩
    rw [Table.get?_insert, if_neg]
    rintro rfl
    exact hother hname
  | @dropped _ _ _ members other declared free null =>
    refine ⟨members, _, rfl, rfl, fun name hname => ?_⟩
    by_cases heq : other = name
    · subst heq
      exact .dropped free null (by rw [Table.get?_erase, if_pos rfl])
    · exact .kept (by rw [Table.get?_erase, if_neg heq])
  | @inside _ _ _ members other v v' declared hv edit =>
    refine ⟨members, _, rfl, rfl, fun name hname => ?_⟩
    by_cases heq : other = name
    · subst heq
      exact .edited hv (by rw [Table.get?_insert, if_pos rfl]) edit
    · exact .kept (by rw [Table.get?_insert, if_neg heq])

section Fields

variable {name : String} {members members' : Table Json}

theorem AtField.optional? (h : AtField required f name members members')
    (tolerates : f.Tolerates decode) :
    Json.optional? decode name members' = Json.optional? decode name members := by
  cases h with
  | kept h => exact Json.optional?_congr h
  | dropped _ null gone => rw [Json.optional?, Json.optional?, null, gone]
  | @edited v v' before after edit =>
    have hsame := tolerates v v' edit
    -- A value inside of which something can be edited is there on both sides.
    obtain ⟨hv, hv'⟩ := edit.ne_null
    rw [Json.optional?_of_ne_null before hv, Json.optional?_of_ne_null after hv', hsame]

theorem AtField.required? (h : AtField required f name members members')
    (tolerates : f.Tolerates decode) (needed : name ∈ required) :
    Json.required? decode name members' = Json.required? decode name members := by
  unfold Json.required?
  cases h with
  | kept h => rw [h]
  | dropped free _ _ => exact absurd needed free
  | edited before after edit =>
    rw [before, after, Option.bind_some, Option.bind_some, tolerates _ _ edit]

end Fields

/-! ### The records, from the innermost -/

theorem tolerates_condition : condition.Tolerates Document.condition? := by
  intro doc doc' edit
  obtain ⟨members, members', rfl, rfl, each⟩ := edit.at_fields
  have htext (name : String) (h : name ∈ ["type", "status", "reason", "message"]) :
      Json.optional? Json.text? name members' = Json.optional? Json.text? name members :=
    (each name h).optional? (tolerates_whole _)
  simp only [Document.condition?, Json.fields?, Option.bind_eq_bind, Option.bind_some,
    htext "type" (by decide), htext "status" (by decide), htext "reason" (by decide),
    htext "message" (by decide)]

theorem tolerates_child : child.Tolerates Document.child? := by
  intro doc doc' edit
  obtain ⟨members, members', rfl, rfl, each⟩ := edit.at_fields
  have htext (name : String) (h : name ∈ ["apiVersion", "kind", "name", "pipelineTaskName"]) :
      Json.optional? Json.text? name members' = Json.optional? Json.text? name members :=
    (each name h).optional? (tolerates_whole _)
  simp only [Document.child?, Json.fields?, Option.bind_eq_bind, Option.bind_some,
    htext "apiVersion" (by decide), htext "kind" (by decide), htext "name" (by decide),
    htext "pipelineTaskName" (by decide)]

theorem tolerates_termination : termination.Tolerates Document.termination? := by
  intro doc doc' edit
  obtain ⟨members, members', rfl, rfl, each⟩ := edit.at_fields
  have hexit := (each "exitCode" (by decide)).optional? (tolerates_whole Document.exitCode?)
  have hreason := (each "reason" (by decide)).optional? (tolerates_whole Json.text?)
  have hmessage := (each "message" (by decide)).optional? (tolerates_whole Json.text?)
  simp only [Document.termination?, Json.fields?, Option.bind_eq_bind, Option.bind_some, hexit,
    hreason, hmessage]

theorem tolerates_step : step.Tolerates Document.step? := by
  intro doc doc' edit
  obtain ⟨members, members', rfl, rfl, each⟩ := edit.at_fields
  have hname := (each "name" (by decide)).optional? (tolerates_whole Json.text?)
  have hcontainer := (each "container" (by decide)).optional? (tolerates_whole Json.text?)
  have hterminated := (each "terminated" (by decide)).optional? tolerates_termination
  simp only [Document.step?, Json.fields?, Option.bind_eq_bind, Option.bind_some, hname,
    hcontainer, hterminated]

theorem tolerates_result : result.Tolerates Document.result? := by
  intro doc doc' edit
  obtain ⟨members, members', rfl, rfl, each⟩ := edit.at_fields
  have hname := (each "name" (by decide)).required? (tolerates_whole Json.text?) (by decide)
  -- A value is taken as it is: left out and null come to the same.
  have hvalue : (Table.get? "value" members').getD .null =
      (Table.get? "value" members).getD .null := by
    cases each "value" (by decide) with
    | kept h => rw [h]
    | dropped _ null gone => rw [null, gone]; rfl
    | edited _ _ edit => cases edit
  simp only [Document.result?, Json.fields?, Option.bind_eq_bind, Option.bind_some, hname, hvalue]

theorem tolerates_metadata : metadata.Tolerates Document.metadata? := by
  intro doc doc' edit
  obtain ⟨members, members', rfl, rfl, each⟩ := edit.at_fields
  have hname := (each "name" (by decide)).optional? (tolerates_whole Json.text?)
  have hlabels := (each "labels" (by decide)).optional? (tolerates_whole Json.labels?)
  have hannotations := (each "annotations" (by decide)).optional? (tolerates_whole Json.labels?)
  simp only [Document.metadata?, Json.fields?, Option.bind_eq_bind, Option.bind_some, hname,
    hlabels, hannotations]

theorem tolerates_status : status.Tolerates Document.status? := by
  intro doc doc' edit
  obtain ⟨members, members', rfl, rfl, each⟩ := edit.at_fields
  have hconditions := (each "conditions" (by decide)).optional? tolerates_condition.list?
  have hstart := (each "startTime" (by decide)).optional? (tolerates_whole Json.text?)
  have hcompletion := (each "completionTime" (by decide)).optional? (tolerates_whole Json.text?)
  have hchildren := (each "childReferences" (by decide)).optional? tolerates_child.list?
  have hpod := (each "podName" (by decide)).optional? (tolerates_whole Json.text?)
  have hsteps := (each "steps" (by decide)).optional? tolerates_step.list?
  have htask := (each "taskResults" (by decide)).optional? tolerates_result.list?
  have hpipeline := (each "pipelineResults" (by decide)).optional? tolerates_result.list?
  have hresults := (each "results" (by decide)).optional? tolerates_result.list?
  have hphase := (each "phase" (by decide)).optional? (tolerates_whole Json.text?)
  simp only [Document.status?, Json.fields?, Option.bind_eq_bind, Option.bind_some, hconditions,
    hstart, hcompletion, hchildren, hpod, hsteps, htask, hpipeline, hresults, hphase]

end Format

/-! ### Snapshots -/

namespace Snapshot

variable {k : Kind} {doc doc' : Json} {s : Snapshot}

theorem raw_of_ofDocument? (h : ofDocument? k doc = some s) : s.raw = doc := by
  simp only [ofDocument?, Option.bind_eq_bind, Option.bind_eq_some_iff] at h
  obtain ⟨fields, -, kind, -, metadata, -, status, -, hs⟩ := h
  cases hs
  rfl

theorem ofDocument?_of_edit (edit : Format.resource.Edit doc doc') :
    ofDocument? k doc' = (ofDocument? k doc).map fun s => { s with raw := doc' } := by
  obtain ⟨members, members', rfl, rfl, each⟩ := edit.at_fields
  have hkind := (each "kind" (by decide)).optional? (Format.tolerates_whole Json.text?)
  have hmetadata := (each "metadata" (by decide)).optional? Format.tolerates_metadata
  have hstatus := (each "status" (by decide)).optional? Format.tolerates_status
  simp only [ofDocument?, Json.fields?, Option.bind_eq_bind, Option.bind_some, hkind, hmetadata,
    hstatus, Option.map_bind, Function.comp_def, Option.pure_def, Option.map_some]

/-- Whatever the server adds to a document or leaves out, in any number of places, the snapshot can
be read if it could be before, and is the same but for the document that it keeps. -/
theorem tolerates_edits (k : Kind) {doc doc' : Json}
    (edits : Relation.ReflTransGen Format.resource.Edit doc doc') :
    ofDocument? k doc' = (ofDocument? k doc).map (fun s => { s with raw := doc' }) ∧
      ∀ s, ofDocument? k doc' = some s → s.raw = doc' := by
  refine ⟨?_, fun s => raw_of_ofDocument?⟩
  induction edits with
  | refl =>
    cases h : ofDocument? k doc with
    | none => rfl
    | some s =>
      have hraw : s.raw = doc := raw_of_ofDocument? h
      rw [Option.map_some, ← hraw]
  | @tail doc' doc'' _ edit ih =>
    calc ofDocument? k doc''
      _ = (ofDocument? k doc').map fun s => { s with raw := doc'' } := ofDocument?_of_edit edit
      _ = ((ofDocument? k doc).map fun s => { s with raw := doc' }).map
            fun s => { s with raw := doc'' } := by rw [ih]
      _ = (ofDocument? k doc).map fun s => { s with raw := doc'' } := Option.map_map ..

/-- A condition as an older server reports it, and with the date that a newer one adds. -/
def undated : Json := .object [("status", .text "True")]

def dated : Json := .object [("since", .text "noon"), ("status", .text "True")]

/-- A task run with one condition, and with a list of steps that is given as null. -/
def ofOlder : Json :=
  .object [("status", .object [("conditions", .array [undated]), ("steps", .null)])]

/-- The same task run, with the date and without the list. -/
def ofNewer : Json :=
  .object [("status", .object [("conditions", .array [dated])])]

theorem tolerates_edits_older : Relation.ReflTransGen Format.resource.Edit ofOlder ofNewer ∧
    (ofDocument? .taskRun ofOlder).isSome ∧
    ofDocument? .taskRun ofNewer =
      (ofDocument? .taskRun ofOlder).map (fun s => { s with raw := ofNewer }) ∧
    ∀ s, ofDocument? .taskRun ofNewer = some s → s.raw = ofNewer := by
  have hdate : Format.condition.Edit undated dated :=
    .undeclared "since" (.text "noon") (by decide)
  have hconditions : (Format.list .condition).Edit (.array [undated]) (.array [dated]) :=
    .element [] [] hdate
  have hstatus : Format.status.Edit
      (.object [("conditions", .array [undated]), ("steps", .null)])
      (.object [("conditions", .array [dated]), ("steps", .null)]) :=
    .inside "conditions" (by decide) rfl hconditions
  have hsteps : Format.status.Edit
      (.object [("conditions", .array [dated]), ("steps", .null)])
      (.object [("conditions", .array [dated])]) :=
    .dropped "steps" (by decide) (by decide) rfl
  have edits : Relation.ReflTransGen Format.resource.Edit ofOlder ofNewer := by
    refine .head (.inside "status" (by decide) rfl hstatus) ?_
    exact .single (.inside "status" (by decide) rfl hsteps)
  exact ⟨edits, by decide +kernel, tolerates_edits .taskRun edits⟩

end Snapshot

end PipelineObserver
