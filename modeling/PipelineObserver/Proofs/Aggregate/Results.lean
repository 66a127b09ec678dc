import PipelineObserver.Proofs.Diagnosis.Locality
import PipelineObserver.Proofs.Resource.Declarations
/-!
The results of a pipeline run and of its tasks, from documents that stay the same while they are
asked for. Several declarations may share a name, and several task runs a task. Which of them counts
is said by `results_by_last_declaration`.
-/
namespace PipelineObserver

/-! ### Tables of what comes last -/

namespace Table

variable {α β : Type}

theorem get?_ofList_eq_some_iff {entries : List (String × β)} {name : String} {value : β} :
    get? name (ofList entries) = some value ↔ ∃ before after,
      entries = before ++ (name, value) :: after ∧ ∀ entry ∈ after, entry.1 ≠ name := by
  rw [get?_ofList, List.lookup_eq_some_iff]
  constructor
  · rintro ⟨after, before, hentries, hafter⟩
    refine ⟨before.reverse, after.reverse, ?_, ?_⟩
    · rw [← List.reverse_reverse entries, hentries, List.reverse_append, List.reverse_cons,
        List.append_assoc]
      rfl
    · intro entry hentry
      have hne := hafter entry (List.mem_reverse.mp hentry)
      exact fun h => bne_iff_ne.mp hne h.symm
  · rintro ⟨before, after, rfl, hafter⟩
    refine ⟨after.reverse, before.reverse, ?_, ?_⟩
    · rw [List.reverse_append, List.reverse_cons, List.append_assoc]
      rfl
    · intro entry hentry
      exact bne_iff_ne.mpr (Ne.symm (hafter entry (List.mem_reverse.mp hentry)))

/-- Of the elements that give something under a name, the last one counts. -/
theorem get?_ofList_filterMap_eq_some_iff {f : α → Option (String × β)} {as : List α}
    {name : String} {value : β} :
    get? name (ofList (as.filterMap f)) = some value ↔ ∃ before a after,
      as = before ++ a :: after ∧ f a = some (name, value) ∧
        ∀ b ∈ after, ∀ other, f b ≠ some (name, other) := by
  rw [get?_ofList_eq_some_iff]
  constructor
  · rintro ⟨before, after, hentries, hafter⟩
    obtain ⟨first, second, rfl, -, hsecond⟩ := List.filterMap_eq_append_iff.mp hentries
    obtain ⟨skipped, a, rest, rfl, -, ha, hrest⟩ := List.filterMap_eq_cons_iff.mp hsecond
    refine ⟨first ++ skipped, a, rest, by rw [List.append_assoc], ha, fun b hb other h => ?_⟩
    have hmem : (name, other) ∈ after := hrest ▸ List.mem_filterMap.mpr ⟨b, hb, h⟩
    exact hafter _ hmem rfl
  · rintro ⟨before, a, after, rfl, ha, hafter⟩
    refine ⟨before.filterMap f, after.filterMap f, ?_, ?_⟩
    · rw [List.filterMap_append, List.filterMap_cons_some ha]
    · rintro ⟨_, other⟩ hentry rfl
      obtain ⟨b, hb, h⟩ := List.mem_filterMap.mp hentry
      exact hafter b hb other h

theorem get?_ofList_filterMap_eq_none_iff {f : α → Option (String × β)} {as : List α}
    {name : String} : get? name (ofList (as.filterMap f)) = none ↔
      ∀ a ∈ as, ∀ value, f a ≠ some (name, value) := by
  rw [get?_ofList, List.lookup_eq_none_iff]
  constructor
  · intro h a ha value hvalue
    have hmem : (name, value) ∈ (as.filterMap f).reverse :=
      List.mem_reverse.mpr (List.mem_filterMap.mpr ⟨a, ha, hvalue⟩)
    exact bne_iff_ne.mp (h _ hmem) rfl
  · rintro h ⟨other, value⟩ hmem
    obtain ⟨a, ha, hvalue⟩ := List.mem_filterMap.mp (List.mem_reverse.mp hmem)
    refine bne_iff_ne.mpr ?_
    rintro rfl
    exact h a ha value hvalue

theorem ordered_ofList (entries : List (String × β)) : Ordered (ofList entries) :=
  ordered_foldl_insert entries .nil

end Table

/-! ### Values and documents -/

/-- What a declared value comes to. A text is read as JSON once, and stays as it is if it is not
JSON. -/
inductive Json.Decodes : Json → Json → Prop
  | spelled {text : String} {v : Json} (h : parse? text = some v) : Decodes (.text text) v
  | raw {text : String} (h : parse? text = none) : Decodes (.text text) (.text text)
  | plain {v : Json} (h : ∀ text, v ≠ .text text) : Decodes v v

theorem Json.decodes_iff {v value : Json} : v.Decodes value ↔ v.decoded = value := by
  constructor
  · intro h
    cases h with
    | spelled h => rw [decoded, h, Option.getD_some]
    | raw h => rw [decoded, h, Option.getD_none]
    | plain h =>
      cases v with
      | text text => exact absurd rfl (h text)
      | _ => rfl
  · rintro rfl
    cases v with
    | text text =>
      rw [decoded]
      cases h : parse? text with
      | none => exact .raw h
      | some value => exact .spelled h
    | _ => exact .plain nofun

/-- The results of one task run: under each name the value that its document declares last. -/
structure TaskTable (doc : Json) (results : Table Json) : Prop where
  ordered : Table.Ordered results
  last : ∀ name value, Table.get? name results = some value ↔ ∃ before after,
    Document.declared doc = before ++ (name, value) :: after ∧ ∀ entry ∈ after, entry.1 ≠ name
  silent : Document.declared doc = [] → results = []

/-- The results of the tasks, by the documents of the task runs. Those of the last task run that
exists count for a task. -/
structure TaskTables (taskRuns : List ChildReference) (document : ChildReference → Option Json)
    (tasks : Table (Table Json)) : Prop where
  ordered : Table.Ordered tasks
  names : ∀ task, Table.get? task tasks ≠ none ↔
    ∃ c ∈ taskRuns, c.taskName = task ∧ document c ≠ none
  last : ∀ task results, Table.get? task tasks = some results → ∃ before c after doc,
    taskRuns = before ++ c :: after ∧ c.taskName = task ∧ document c = some doc ∧
      (∀ other ∈ after, other.taskName = task → document other = none) ∧ TaskTable doc results

/-- The results of a pipeline run: under each name the last value that is not null. -/
structure OwnTable (declarations : List (String × Json)) (results : Table Json) : Prop where
  ordered : Table.Ordered results
  last : ∀ name value, Table.get? name results = some value ↔ ∃ before v after,
    declarations = before ++ (name, v) :: after ∧ v.Decodes value ∧ value ≠ .null ∧
      ∀ entry ∈ after, entry.1 = name → entry.2.Decodes .null
  absent : ∀ name, Table.get? name results = none ↔
    ∀ v, (name, v) ∈ declarations → v.Decodes .null

/-- An answer to the look-up of a resource of which this is the document, if there is one. -/
inductive Serves : Option Json → Except Failure Response → Prop
  | gone {r : Response} (h : r.status = 404) : Serves none (.ok r)
  | found {r : Response} {doc : Json} (success : r.isSuccess = true)
      (h : Json.parse? r.body = some doc) : Serves (some doc) (.ok r)

/-- Nothing is answered to a request but what stands under its path. -/
def Exchange.IsFrom (docs : String → Option Json) : Exchange → Prop
  | ⟨.send r, answer⟩ => Serves (docs r.path) answer
  | _ => True

def Tracker.document? (t : Tracker) (docs : String → Option Json) : Option Json :=
  docs (t.config.resourcePath t.kind t.name)

/-- The resource does not exist, or its document can be read. -/
def Tracker.Readable (t : Tracker) (docs : String → Option Json) : Prop :=
  ∀ doc, t.document? docs = some doc → ∃ s, Snapshot.ofDocument? t.kind doc = some s

namespace PipelineRun

/-- The task runs that the document of a pipeline run lists. -/
def listed (p : PipelineRun) (docs : String → Option Json) : List ChildReference :=
  (p.tracker.document? docs).elim [] Document.listed

/-- The results that it declares. -/
def declared (p : PipelineRun) (docs : String → Option Json) : List (String × Json) :=
  (p.tracker.document? docs).elim [] Document.declared

end PipelineRun

/-! ### The tables that are made -/

section Tables

variable {k : Kind} {doc : Json} {s : Snapshot}

theorem taskTable_of_document (h : Snapshot.ofDocument? k doc = some s) :
    TaskTable doc (resultTable s.results) := by
  rw [resultTable, Document.results_eq_declared h]
  refine ⟨Table.ordered_ofList _, fun _ _ => Table.get?_ofList_eq_some_iff, fun hnone => ?_⟩
  rw [hnone]
  rfl

/-- A declaration as it counts, if it does. -/
def decodedDeclaration? (entry : String × Json) : Option (String × Json) :=
  if entry.2.decoded.isNull then none else some (entry.1, entry.2.decoded)

theorem Json.isNull_iff {v : Json} : v.isNull = true ↔ v = .null := by
  cases v <;> simp [Json.isNull]

theorem decodedDeclaration?_eq_some_iff {entry : String × Json} {name : String} {value : Json} :
    decodedDeclaration? entry = some (name, value) ↔
      entry.1 = name ∧ entry.2.Decodes value ∧ value ≠ .null := by
  rw [decodedDeclaration?, Json.decodes_iff]
  by_cases hnull : entry.2.decoded = .null
  · rw [if_pos (Json.isNull_iff.mpr hnull)]
    refine ⟨nofun, ?_⟩
    rintro ⟨-, rfl, hvalue⟩
    exact absurd hnull hvalue
  · rw [if_neg (mt Json.isNull_iff.mp hnull)]
    constructor
    · intro h
      cases h
      exact ⟨rfl, rfl, hnull⟩
    · rintro ⟨rfl, rfl, -⟩
      rfl

theorem not_decodedDeclaration?_iff {entry : String × Json} {name : String} :
    (∀ value, decodedDeclaration? entry ≠ some (name, value)) ↔
      (entry.1 = name → entry.2.Decodes .null) := by
  constructor
  · rintro h rfl
    by_contra hnull
    have hvalue : entry.2.decoded ≠ .null := fun hdecoded => hnull (Json.decodes_iff.mpr hdecoded)
    exact h _ (decodedDeclaration?_eq_some_iff.mpr ⟨rfl, Json.decodes_iff.mpr rfl, hvalue⟩)
  · intro h value hentry
    obtain ⟨hname, hdecodes, hvalue⟩ := decodedDeclaration?_eq_some_iff.mp hentry
    exact hvalue ((Json.decodes_iff.mp hdecodes).symm.trans (Json.decodes_iff.mp (h hname)))

theorem decodedResults_eq (results : List NamedResult) : decodedResults results =
    Table.ofList ((results.map fun r => (r.name, r.value)).filterMap decodedDeclaration?) := by
  rw [decodedResults]
  congr 1
  induction results with
  | nil => rfl
  | cons r rest ih =>
    rw [List.map_cons, List.map_cons, List.filterMap_cons, decodedDeclaration?]
    cases hnull : r.value.decoded.isNull with
    | true =>
      rw [List.filter_cons_of_neg (by simp [hnull]), ih]
      rfl
    | false =>
      rw [List.filter_cons_of_pos (by simp [hnull]), ih]
      rfl

theorem ownTable (declarations : List (String × Json)) :
    OwnTable declarations (Table.ofList (declarations.filterMap decodedDeclaration?)) := by
  constructor
  case ordered => exact Table.ordered_ofList _
  case last =>
    intro name value
    rw [Table.get?_ofList_filterMap_eq_some_iff]
    simp only [not_decodedDeclaration?_iff, decodedDeclaration?_eq_some_iff]
    constructor
    · rintro ⟨before, ⟨_, v⟩, after, hsplit, ⟨rfl, hdecodes, hvalue⟩, hafter⟩
      exact ⟨before, v, after, hsplit, hdecodes, hvalue, hafter⟩
    · rintro ⟨before, v, after, hsplit, hdecodes, hvalue, hafter⟩
      exact ⟨before, (name, v), after, hsplit, ⟨rfl, hdecodes, hvalue⟩, hafter⟩
  case absent =>
    intro name
    rw [Table.get?_ofList_filterMap_eq_none_iff]
    simp only [not_decodedDeclaration?_iff]
    constructor
    · intro h v hv
      exact h (name, v) hv rfl
    · rintro h ⟨_, v⟩ hv rfl
      exact h v hv

end Tables

/-! ### Clients of documents that stay the same -/

section Fetching

variable {docs : String → Option Json}

theorem Serves.snapshot {k : Kind} {doc : Option Json} {answer : Except Failure Response}
    (h : Serves doc answer)
    (readable : ∀ v, doc = some v → ∃ s, Snapshot.ofDocument? k v = some s) :
    answer.bind (Response.snapshot? k) = .ok (doc.bind (Snapshot.ofDocument? k)) := by
  cases h with
  | @gone r h => exact r.snapshot?_eq_none_iff.mpr h
  | found success h =>
    obtain ⟨s, hs⟩ := readable _ rfl
    change Response.snapshot? k _ = _
    rw [snapshot?_of_parse? success h, Option.bind_some, hs]
    rfl

theorem Tracker.comesTo_snapshot {t : Tracker} (readable : t.Readable docs) :
    Client.ComesTo (Exchange.IsFrom docs) t.snapshot
      ((t.document? docs).bind (Snapshot.ofDocument? t.kind)) := by
  intro asked result h each
  rw [snapshot_run] at h
  obtain ⟨answer, rest, rfl, hrest⟩ := Dialogue.follows_ask_iff.mp h
  obtain ⟨-, rfl⟩ := Dialogue.follows_done_iff.mp hrest
  have hserves : Serves (t.document? docs) answer := each _ List.mem_cons_self
  exact hserves.snapshot readable

namespace PipelineRun

variable {p : PipelineRun}

/-- The snapshot of a task run, if there is one. -/
def found? (p : PipelineRun) (docs : String → Option Json) (c : ChildReference) : Option Snapshot :=
  ((p.taskRun c).document? docs).bind (Snapshot.ofDocument? .taskRun)

/-- The pipeline run lists what its document lists, and nothing if it is gone. -/
theorem listed_eq (run : p.tracker.Readable docs) : p.listed docs =
    (((p.tracker.document? docs).bind (Snapshot.ofDocument? .pipelineRun)).map
      Snapshot.taskRuns).getD [] := by
  rw [listed]
  cases hdoc : p.tracker.document? docs with
  | none => rfl
  | some doc =>
    obtain ⟨s, hs⟩ := run doc hdoc
    have hs' : Snapshot.ofDocument? .pipelineRun doc = some s := hs
    rw [Option.bind_some, hs', Option.elim_some, ← Document.taskRuns_eq_listed hs]
    rfl

theorem found?_eq_none_iff {c : ChildReference} (readable : (p.taskRun c).Readable docs) :
    p.found? docs c = none ↔ (p.taskRun c).document? docs = none := by
  rw [found?]
  cases hdoc : (p.taskRun c).document? docs with
  | none => simp
  | some doc =>
    obtain ⟨s, hs⟩ := readable doc hdoc
    have hs' : Snapshot.ofDocument? .taskRun doc = some s := hs
    simp [hs']

/-- What a task run contributes to the results of the tasks. -/
def contribution? (p : PipelineRun) (docs : String → Option Json) (c : ChildReference) :
    Option (String × Table Json) :=
  (p.found? docs c).map fun s => (c.taskName, resultTable s.results)

theorem contribution?_eq_some_iff {c : ChildReference} {task : String} {results : Table Json} :
    p.contribution? docs c = some (task, results) ↔
      c.taskName = task ∧ ∃ s, p.found? docs c = some s ∧ resultTable s.results = results := by
  rw [contribution?, Option.map_eq_some_iff]
  constructor
  · rintro ⟨s, hs, hentry⟩
    cases hentry
    exact ⟨rfl, s, hs, rfl⟩
  · rintro ⟨rfl, s, hs, rfl⟩
    exact ⟨s, hs, rfl⟩

theorem not_contribution?_iff {c : ChildReference} (readable : (p.taskRun c).Readable docs)
    {task : String} : (∀ results, p.contribution? docs c ≠ some (task, results)) ↔
      (c.taskName = task → (p.taskRun c).document? docs = none) := by
  rw [← found?_eq_none_iff readable]
  constructor
  · intro h hname
    cases hfound : p.found? docs c with
    | none => rfl
    | some s => exact absurd (contribution?_eq_some_iff.mpr ⟨hname, s, hfound, rfl⟩) (h _)
  · intro h results hentry
    obtain ⟨hname, s, hs, -⟩ := contribution?_eq_some_iff.mp hentry
    cases (h hname).symm.trans hs

theorem taskTables (tasks : ∀ c ∈ p.listed docs, (p.taskRun c).Readable docs) :
    TaskTables (p.listed docs) (fun c => (p.taskRun c).document? docs)
      (Table.ofList ((p.listed docs).filterMap (p.contribution? docs))) := by
  constructor
  case ordered => exact Table.ordered_ofList _
  case names =>
    intro task
    rw [Ne, Table.get?_ofList_filterMap_eq_none_iff]
    constructor
    · intro h
      by_contra hnone
      refine h fun c hc => (not_contribution?_iff (tasks c hc)).mpr fun hname => ?_
      by_contra hdoc
      exact hnone ⟨c, hc, hname, hdoc⟩
    · rintro ⟨c, hc, hname, hdoc⟩ h
      exact hdoc ((not_contribution?_iff (tasks c hc)).mp (h c hc) hname)
  case last =>
    intro task results hresults
    obtain ⟨before, c, after, hsplit, hentry, hafter⟩ :=
      Table.get?_ofList_filterMap_eq_some_iff.mp hresults
    obtain ⟨hname, s, hs, rfl⟩ := contribution?_eq_some_iff.mp hentry
    obtain ⟨doc, hdoc, hdocument⟩ := Option.bind_eq_some_iff.mp hs
    refine ⟨before, c, after, doc, hsplit, hname, hdoc, fun other hother => ?_,
      taskTable_of_document hdocument⟩
    have hlisted : other ∈ p.listed docs := by
      rw [hsplit]
      exact List.mem_append_right _ (List.mem_cons_of_mem _ hother)
    exact (not_contribution?_iff (tasks other hlisted)).mp (hafter other hother)

theorem comesTo_taskResults (run : p.tracker.Readable docs)
    (tasks : ∀ c ∈ p.listed docs, (p.taskRun c).Readable docs) :
    Client.ComesTo (Exchange.IsFrom docs) p.taskResults
      (Table.ofList ((p.listed docs).filterMap (p.contribution? docs))) := by
  have hentries : ((p.listed docs).filterMap fun c => (p.found? docs c).map fun s => (c, s)).map
      (fun x => (x.1.taskName, resultTable x.2.results)) =
        (p.listed docs).filterMap (p.contribution? docs) := by
    simp only [List.map_filterMap, Option.map_map]
    rfl
  have htaskRuns : Client.ComesTo (Exchange.IsFrom docs) p.taskRuns
      ((p.listed docs).filterMap fun c => (p.found? docs c).map fun s => (c, s)) := by
    rw [listed_eq run] at tasks ⊢
    exact Diagnosis.comesTo_taskRuns (Tracker.comesTo_snapshot run)
      fun c hc => Tracker.comesTo_snapshot (tasks c hc)
  refine htaskRuns.bind ?_
  rw [← hentries]
  exact .pure _

theorem comesTo_pipelineResults (run : p.tracker.Readable docs) :
    Client.ComesTo (Exchange.IsFrom docs) p.pipelineResults
      (Table.ofList ((p.declared docs).filterMap decodedDeclaration?)) := by
  refine (Tracker.comesTo_snapshot run).bind ?_
  rw [declared]
  cases hdoc : p.tracker.document? docs with
  | none => exact .pure _
  | some doc =>
    obtain ⟨s, hs⟩ := run doc hdoc
    rw [Option.bind_some, hs, Option.elim_some, ← Document.results_eq_declared hs,
      ← decodedResults_eq]
    exact .pure _

end PipelineRun

end Fetching

/-- Whatever the documents of a pipeline run and of its task runs are, as long as they can be read
and stay the same while the results are asked for: the results of the tasks are those of the last
task run of each that exists, and the last declaration of a name counts in them. Of the results of
the pipeline run itself, the last one that is not null once it is decoded counts. -/
theorem results_by_last_declaration {p : PipelineRun} {docs : String → Option Json}
    (run : p.tracker.Readable docs) :
    ((∀ c ∈ p.listed docs, (p.taskRun c).Readable docs) → ∃ tasks,
      TaskTables (p.listed docs) (fun c => (p.taskRun c).document? docs) tasks ∧
      ∀ {ω : Type} (S : Surroundings ω) (w : ω),
        (∀ e ∈ S.course p.taskResults.run w, e.IsFrom docs) →
          (S.hold p.taskResults.run w).1 = .ok tasks) ∧
    ∃ results, OwnTable (p.declared docs) results ∧
      ∀ {ω : Type} (S : Surroundings ω) (w : ω),
        (∀ e ∈ S.course p.pipelineResults.run w, e.IsFrom docs) →
          (S.hold p.pipelineResults.run w).1 = .ok results := by
  constructor
  · intro tasks
    refine ⟨_, p.taskTables tasks, fun S w each => ?_⟩
    exact (p.comesTo_taskResults run tasks).hold S w each
  · refine ⟨_, ownTable (p.declared docs), fun S w each => ?_⟩
    exact (p.comesTo_pipelineResults run).hold S w each

/-! A pipeline run with two task runs of one task, of which the second declares one result twice.
Its own result is declared with a value first and with null then. -/

/-- The text and the document under each path. -/
def repeatedDocuments : Table (String × Json) := [
  ("apis/tekton.dev/v1beta1/namespaces/ns/pipelineruns/run",
    Diagnosis.statusDocument ("\"childReferences\":[" ++
      "\x7b\"kind\":\"TaskRun\",\"name\":\"a\",\"pipelineTaskName\":\"t\"\x7d," ++
      "\x7b\"kind\":\"TaskRun\",\"name\":\"b\",\"pipelineTaskName\":\"t\"\x7d]," ++
      "\"results\":[\x7b\"name\":\"i\",\"value\":\"\\\"x\\\"\"\x7d,\x7b\"name\":\"i\"\x7d]"),
    .object [("status", .object [
      ("childReferences", .array [
        .object [("kind", .text "TaskRun"), ("name", .text "a"), ("pipelineTaskName", .text "t")],
        .object [("kind", .text "TaskRun"), ("name", .text "b"), ("pipelineTaskName", .text "t")]]),
      ("results", .array [
        .object [("name", .text "i"), ("value", .text "\"x\"")],
        .object [("name", .text "i")]])])]),
  ("apis/tekton.dev/v1beta1/namespaces/ns/taskruns/a",
    Diagnosis.statusDocument "\"results\":[\x7b\"name\":\"d\",\"value\":\"1\"\x7d]",
    .object [("status", .object [
      ("results", .array [.object [("name", .text "d"), ("value", .text "1")]])])]),
  ("apis/tekton.dev/v1beta1/namespaces/ns/taskruns/b",
    Diagnosis.statusDocument ("\"results\":[\x7b\"name\":\"d\",\"value\":\"3\"\x7d]," ++
      "\"taskResults\":[\x7b\"name\":\"d\",\"value\":\"2\"\x7d]"),
    .object [("status", .object [
      ("results", .array [.object [("name", .text "d"), ("value", .text "3")]]),
      ("taskResults", .array [.object [("name", .text "d"), ("value", .text "2")]])])])]

def repeatedDocs (path : String) : Option Json := (Table.get? path repeatedDocuments).map (·.2)

def repeatedRule (r : Request) : Except Failure Response :=
  match Table.get? r.path repeatedDocuments with
  | some (text, _) => .ok ⟨200, text⟩
  | none => .ok ⟨404, "not found"⟩

theorem repeated_serves (r : Request) : Serves (repeatedDocs r.path) (repeatedRule r) := by
  have hparse : ∀ entry ∈ repeatedDocuments, Json.parse? entry.2.1 = some entry.2.2 := by
    decide +kernel
  rw [repeatedDocs, repeatedRule]
  cases hentry : Table.get? r.path repeatedDocuments with
  | none => exact .gone rfl
  | some entry => exact .found rfl (hparse _ (Table.mem_of_get? hentry))

theorem Surroundings.still_isFrom {rule : Request → Except Failure Response}
    {docs : String → Option Json} (serves : ∀ r, Serves (docs r.path) (rule r)) {α : Type}
    (d : Dialogue α) (w : Unit) : ∀ e ∈ (still rule).course d w, e.IsFrom docs := by
  induction d generalizing w with
  | done a => exact nofun
  | ask q next ih =>
    refine List.forall_mem_cons.mpr ⟨?_, ih _ _⟩
    cases q with
    | send r => exact serves r
    | _ => trivial

theorem Tracker.readable_of_all {t : Tracker} {docs : String → Option Json}
    (h : (t.document? docs).all (fun doc => (Snapshot.ofDocument? t.kind doc).isSome) = true) :
    t.Readable docs := by
  intro doc hdoc
  rw [hdoc, Option.all_some] at h
  exact Option.isSome_iff_exists.mp h

theorem results_by_last_declaration_repeated :
    Diagnosis.halfGone.tracker.Readable repeatedDocs ∧
      (∀ c ∈ Diagnosis.halfGone.listed repeatedDocs,
        (Diagnosis.halfGone.taskRun c).Readable repeatedDocs) ∧
      ((Surroundings.still repeatedRule).hold Diagnosis.halfGone.taskResults.run ()).1 =
        .ok [("t", [("d", .text "3")])] ∧
      TaskTables (Diagnosis.halfGone.listed repeatedDocs)
        (fun c => (Diagnosis.halfGone.taskRun c).document? repeatedDocs)
        [("t", [("d", .text "3")])] ∧
      ((Surroundings.still repeatedRule).hold Diagnosis.halfGone.pipelineResults.run ()).1 =
        .ok [("i", .text "x")] ∧
      OwnTable (Diagnosis.halfGone.declared repeatedDocs) [("i", .text "x")] := by
  have hrun : Diagnosis.halfGone.tracker.Readable repeatedDocs :=
    Tracker.readable_of_all (by decide +kernel)
  have hall : ∀ c ∈ Diagnosis.halfGone.listed repeatedDocs,
      ((Diagnosis.halfGone.taskRun c).document? repeatedDocs).all
        (fun doc => (Snapshot.ofDocument? .taskRun doc).isSome) = true := by decide +kernel
  have htasks : ∀ c ∈ Diagnosis.halfGone.listed repeatedDocs,
      (Diagnosis.halfGone.taskRun c).Readable repeatedDocs :=
    fun c hc => Tracker.readable_of_all (hall c hc)
  have hfrom {α : Type} (d : Dialogue α) :
      ∀ e ∈ (Surroundings.still repeatedRule).course d (), e.IsFrom repeatedDocs :=
    Surroundings.still_isFrom repeated_serves d ()
  obtain ⟨hmain, own, hown, hholdOwn⟩ := results_by_last_declaration hrun
  obtain ⟨tasks, htables, hholdTasks⟩ := hmain htasks
  have hholdTasks := hholdTasks _ _ (hfrom Diagnosis.halfGone.taskResults.run)
  have hholdOwn := hholdOwn _ _ (hfrom Diagnosis.halfGone.pipelineResults.run)
  -- Both tables are made from the documents, without reading the texts again.
  have hmade := (Diagnosis.halfGone.comesTo_taskResults hrun htasks).hold _ _
    (hfrom Diagnosis.halfGone.taskResults.run)
  have hmadeOwn := (Diagnosis.halfGone.comesTo_pipelineResults hrun).hold _ _
    (hfrom Diagnosis.halfGone.pipelineResults.run)
  obtain rfl : tasks = [("t", [("d", .text "3")])] :=
    (Except.ok.inj (hholdTasks.symm.trans hmade)).trans (by decide +kernel)
  obtain rfl : own = [("i", .text "x")] :=
    (Except.ok.inj (hholdOwn.symm.trans hmadeOwn)).trans (by decide +kernel)
  exact ⟨hrun, htasks, hholdTasks, htables, hholdOwn, hown⟩

end PipelineObserver
