import PipelineObserver.Proofs.Tracker.Agreement
/-!
What the document of a resource lists: the task runs of a pipeline run, and the results that are
declared in it. A snapshot has them as the document does: `taskRuns_eq_listed` and
`results_eq_declared`.
-/
namespace PipelineObserver.Document

def childFields : List String := ["apiVersion", "kind", "name", "pipelineTaskName"]

def resultFields : List String := ["name", "value"]

/-- What a record says in a field, if that is a text. -/
def text? (names : List String) (name : String) (record : Json) : Option String :=
  (said? names name record).bind Json.text?

/-- The elements of a list in the status block of a document. -/
def elements (list : String) (doc : Json) : List Json :=
  (((said? resourceFields "status" doc).bind (said? statusFields list)).bind Json.array?).getD []

/-- A reference to a child, which must have a name. -/
def reference? (record : Json) : Option ChildReference :=
  (text? childFields "name" record).map fun name =>
    ⟨text? childFields "kind" record, name, text? childFields "pipelineTaskName" record⟩

/-- The task runs that a document lists, in its order. -/
def listed (doc : Json) : List ChildReference :=
  ((elements "childReferences" doc).filterMap reference?).filter fun c => c.kind = some "TaskRun"

/-- The name and the value of a result. -/
def declaration? (record : Json) : Option (String × Json) :=
  (text? resultFields "name" record).map fun name =>
    (name, (said? resultFields "value" record).getD .null)

/-- The results that a document declares, one list after the other. -/
def declared (doc : Json) : List (String × Json) :=
  ((elements "taskResults" doc ++ elements "pipelineResults" doc) ++
    elements "results" doc).filterMap declaration?

/-! ### Reading them -/

theorem text_of_optional? {names : List String} {name : String} {record : Json}
    {fields : Table Json} {found : Option String} (h : Json.fields? names record = some fields)
    (htext : Json.optional? Json.text? name fields = some found) :
    found = text? names name record := by
  rw [text?, said?_eq h]
  rcases Json.optional?_eq_some htext with ⟨hnone, rfl⟩ | ⟨v, a, hv, ha, rfl⟩
  · rw [hnone, Option.bind_none]
  · rw [hv, Option.bind_some, ha]

theorem child?_eq {record : Json} {child : Option ChildReference} (h : child? record = some child) :
    reference? record = child := by
  simp only [child?, Option.bind_eq_bind, Option.bind_eq_some_iff, Option.pure_def,
    Option.some.injEq] at h
  obtain ⟨fields, hfields, -, -, kind, hkind, name, hname, task, htask, rfl⟩ := h
  rw [reference?, childFields, ← text_of_optional? hfields hkind,
    ← text_of_optional? hfields hname, ← text_of_optional? hfields htask]

theorem result?_eq {record : Json} {result : NamedResult} (h : result? record = some result) :
    declaration? record = some (result.name, result.value) := by
  simp only [result?, Option.bind_eq_bind, Option.bind_eq_some_iff, Option.pure_def,
    Option.some.injEq] at h
  obtain ⟨fields, hfields, name, hname, rfl⟩ := h
  have htext : text? resultFields "name" record = some name := by
    obtain ⟨v, hv, hname⟩ := Option.bind_eq_some_iff.mp hname
    have hgiven : Json.given? "name" fields = some v := by
      rw [Json.given?, hv]
      cases v with
      | text => rfl
      | _ => cases hname
    rw [text?, resultFields, said?_eq hfields, hgiven, Option.bind_some, hname]
  -- A value that is left out is the same as one that is null.
  have hvalue : (said? resultFields "value" record).getD .null =
      (Table.get? "value" fields).getD .null := by
    rw [resultFields, said?_eq hfields, Json.given?]
    cases Table.get? "value" fields with
    | none => rfl
    | some v => cases v <;> rfl
  rw [declaration?, htext, hvalue, Option.map_some]

theorem map_of_mapM {α β γ : Type} {decode : α → Option β} {f : α → γ} {g : β → γ}
    (same : ∀ a b, decode a = some b → f a = g b) {as : List α} {bs : List β}
    (h : as.mapM decode = some bs) : as.map f = bs.map g := by
  induction as generalizing bs with
  | nil =>
    cases h
    rfl
  | cons a rest ih =>
    simp only [List.mapM_cons, Option.bind_eq_bind, Option.bind_eq_some_iff, Option.pure_def,
      Option.some.injEq] at h
    obtain ⟨b, hb, more, hmore, rfl⟩ := h
    rw [List.map_cons, List.map_cons, same a b hb, ih hmore]

theorem mapM_elements {α : Type} {decode : Json → Option α} {list : String} {doc status : Json}
    {fields : Table Json} {found : Option (List α)}
    (hstatus : said? resourceFields "status" doc = some status)
    (hfields : Json.fields? statusFields status = some fields)
    (h : Json.optional? (Json.list? decode) list fields = some found) :
    (elements list doc).mapM decode = some (found.getD []) := by
  rw [elements, hstatus, Option.bind_some, said?_eq hfields]
  rcases Json.optional?_eq_some h with ⟨hnone, rfl⟩ | ⟨v, as, hv, has, rfl⟩
  · rw [hnone]
    rfl
  · rw [hv, Option.bind_some, Option.getD_some]
    cases v with
    | array elements => exact has
    | _ => cases has

theorem elements_eq_nil {doc : Json} (h : said? resourceFields "status" doc = none)
    (list : String) : elements list doc = [] := by
  rw [elements, h, Option.bind_none, Option.bind_none, Option.getD_none]

theorem references_eq {records : List Json} {children : List (Option ChildReference)}
    (h : records.mapM child? = some children) :
    records.filterMap reference? = children.filterMap id := by
  have hmap : records.map reference? = children.map id := map_of_mapM (fun _ _ => child?_eq) h
  rw [List.map_id] at hmap
  rw [← hmap, List.filterMap_map]
  rfl

theorem declarations_eq {records : List Json} {results : List NamedResult}
    (h : records.mapM result? = some results) :
    records.filterMap declaration? = results.map fun r => (r.name, r.value) := by
  have hmap : records.map declaration? = results.map fun r => some (r.name, r.value) :=
    map_of_mapM (fun _ _ => result?_eq) h
  calc records.filterMap declaration?
    _ = (records.map declaration?).filterMap id := by rw [List.filterMap_map]; rfl
    _ = (results.map fun r => some (r.name, r.value)).filterMap id := by rw [hmap]
    _ = results.map fun r => (r.name, r.value) := by
      rw [List.filterMap_map, ← List.filterMap_eq_map]
      rfl

/-- The children and the results of a status block. -/
theorem status?_eq {doc v : Json} {status : Status}
    (said : said? resourceFields "status" doc = some v) (h : status? v = some status) :
    status.children = (elements "childReferences" doc).filterMap reference? ∧
      status.results.map (fun r => (r.name, r.value)) = declared doc := by
  simp only [status?, Option.bind_eq_bind, Option.bind_eq_some_iff, Option.pure_def,
    Option.some.injEq] at h
  obtain ⟨fields, hfields, -, -, -, -, -, -, children, hchildren, -, -, -, -, taskResults, htask,
    pipelineResults, hpipeline, results, hresults, -, -, rfl⟩ := h
  constructor
  · exact (references_eq (mapM_elements said hfields hchildren)).symm
  · rw [declared, List.filterMap_append, List.filterMap_append,
      declarations_eq (mapM_elements said hfields htask),
      declarations_eq (mapM_elements said hfields hpipeline),
      declarations_eq (mapM_elements said hfields hresults)]
    simp only [List.map_append]

section Snapshots

variable {k : Kind} {doc : Json} {s : Snapshot}

theorem children_and_results (h : Snapshot.ofDocument? k doc = some s) :
    s.children = (elements "childReferences" doc).filterMap reference? ∧
      s.results.map (fun r => (r.name, r.value)) = declared doc := by
  simp only [Snapshot.ofDocument?, Option.bind_eq_bind, Option.bind_eq_some_iff, Option.pure_def,
    Option.some.injEq] at h
  obtain ⟨fields, hfields, -, -, -, -, status, hstatus, rfl⟩ := h
  have hsaid : said? resourceFields "status" doc = Json.given? "status" fields :=
    said?_eq hfields "status"
  rcases Json.optional?_eq_some hstatus with ⟨hnone, rfl⟩ | ⟨v, block, hv, hblock, rfl⟩
  · rw [declared]
    simp only [elements_eq_nil (hsaid.trans hnone)]
    exact ⟨rfl, rfl⟩
  · exact status?_eq (hsaid.trans hv) hblock

theorem taskRuns_eq_listed (h : Snapshot.ofDocument? k doc = some s) : s.taskRuns = listed doc := by
  rw [Snapshot.taskRuns, Snapshot.childrenOf, (children_and_results h).1]
  rfl

theorem results_eq_declared (h : Snapshot.ofDocument? k doc = some s) :
    s.results.map (fun r => (r.name, r.value)) = declared doc := (children_and_results h).2

end Snapshots

end PipelineObserver.Document
