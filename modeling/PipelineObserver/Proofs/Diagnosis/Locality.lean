import PipelineObserver.Proofs.Diagnosis.Details
import PipelineObserver.Proofs.Diagnosis.Fragments
/-!
Two servers whose documents differ in fragments that can be spoiled from inside a task: in the
messages of terminated steps and in the values of results. What goes wrong there stays there: both
explanations are made by the same requests, and they say the same but for the errors of plugins and
the details of failed steps, `bad_fragments_stay_local`.
-/
namespace PipelineObserver

variable {ω ω' α β γ δ : Type}

/-! ### Dialogues side by side -/

namespace Dialogue

/-- Two dialogues that put the same questions as long as the answers are alike, and that come to
related results. -/
inductive Parallel (akin : (q : Question) → q.Answer → q.Answer → Prop) (P : α → β → Prop) :
    Dialogue α → Dialogue β → Prop
  | done {a : α} {b : β} (h : P a b) : Parallel akin P (.done a) (.done b)
  | ask {q : Question} {next : q.Answer → Dialogue α} {next' : q.Answer → Dialogue β}
      (each : ∀ answer answer', akin q answer answer' →
        Parallel akin P (next answer) (next' answer')) :
      Parallel akin P (.ask q next) (.ask q next')

theorem Parallel.bind {akin : (q : Question) → q.Answer → q.Answer → Prop} {P : α → β → Prop}
    {Q : γ → δ → Prop} {d : Dialogue α} {d' : Dialogue β} {f : α → Dialogue γ} {f' : β → Dialogue δ}
    (h : Parallel akin P d d') (next : ∀ a b, P a b → Parallel akin Q (f a) (f' b)) :
    Parallel akin Q (d.bind f) (d'.bind f') := by
  induction h with
  | done h => exact next _ _ h
  | ask _ ih => exact .ask fun answer answer' halike => ih answer answer' halike

end Dialogue

/-- Two clients that fail alike, or succeed with related results. -/
inductive Agree (P : α → β → Prop) : Except Failure α → Except Failure β → Prop
  | failed (e : Failure) : Agree P (.error e) (.error e)
  | ok {a : α} {b : β} (h : P a b) : Agree P (.ok a) (.ok b)

/-- Two clients that put the same questions as long as the answers are alike, and that agree. -/
def Client.Parallel (akin : (q : Question) → q.Answer → q.Answer → Prop) (P : α → β → Prop)
    (x : Client α) (y : Client β) : Prop := x.run.Parallel akin (Agree P) y.run

namespace Client

variable {akin : (q : Question) → q.Answer → q.Answer → Prop} {P : α → β → Prop}
  {Q : γ → δ → Prop}

theorem Parallel.pure {a : α} {b : β} (h : P a b) :
    Parallel akin P (Pure.pure a) (Pure.pure b) := .done (.ok h)

theorem Parallel.bind {x : Client α} {y : Client β} {f : α → Client γ} {g : β → Client δ}
    (h : Parallel akin P x y) (next : ∀ a b, P a b → Parallel akin Q (f a) (g b)) :
    Parallel akin Q (x >>= f) (y >>= g) := by
  refine Dialogue.Parallel.bind h fun result result' hresult => ?_
  cases hresult with
  | failed e => exact .done (.failed e)
  | ok h => exact next _ _ h

end Client

/-! ### Servers whose documents differ in fragments -/

/-- The value of a text that holds exactly one, in which arrays and objects nest at most so many
levels deep. -/
def Json.parseWithin? (levels : Nat) (s : String) : Option Json :=
  (Tree.ofString? s).bind (Tree.value? levels)

/-- Two answers to a question that are the same, or that both hold a document, and these differ at
most in fragments. -/
inductive Question.Akin (levels : Nat) : (q : Question) → q.Answer → q.Answer → Prop
  | same (q : Question) (answer : q.Answer) : Akin levels q answer answer
  | documents (r : Request) {status : Nat} {body body' : String} {doc doc' : Json}
      (success : Response.isSuccess ⟨status, body⟩ = true)
      (left : Json.parseWithin? levels body = some doc)
      (right : Json.parseWithin? levels body' = some doc') (like : LikeDocument doc doc') :
      Akin levels (.send r) (.ok ⟨status, body⟩) (.ok ⟨status, body'⟩)

namespace Surroundings

/-- The questions that a dialogue puts. -/
def questions (S : Surroundings ω) : Dialogue α → ω → List Question
  | .done _, _ => []
  | .ask q next, w => q :: questions S (next (S.answer q w).1) (S.answer q w).2

/-- Two servers that go through corresponding states, and whose answers there are the same but for
fragments of documents. The documents can be read if they nest no deeper than so many levels. -/
structure Akin (levels : Nat) (S : Surroundings ω) (S' : Surroundings ω') (R : ω → ω' → Prop) :
    Prop where
  answers : ∀ (q : Question) {w w'}, R w w' → q.Akin levels (S.answer q w).1 (S'.answer q w').1
  states : ∀ (q : Question) {w w'}, R w w' → R (S.answer q w).2 (S'.answer q w').2

variable {S : Surroundings ω} {S' : Surroundings ω'} {R : ω → ω' → Prop} {levels : Nat}

/-- Whatever the state of the surroundings, a client fails in them. -/
def Fails (S : Surroundings ω) (x : Client α) (e : Failure) : Prop :=
  ∀ w, (S.hold x.run w).1 = .error e

theorem Fails.bind {x : Client α} {f : α → Client β} {e : Failure} (h : S.Fails x e) :
    S.Fails (x >>= f) e := by
  intro w
  change (S.hold (x.run.bind (ExceptT.bindCont f)) w).1 = .error e
  rw [hold_bind, h w]
  rfl

theorem Gives.bind_fails {x : Client α} {f : α → Client β} {a : α} {e : Failure}
    (h : S.Gives x a) (hf : S.Fails (f a) e) : S.Fails (x >>= f) e := by
  intro w
  change (S.hold (x.run.bind (ExceptT.bindCont f)) w).1 = .error e
  rw [hold_bind, h w]
  exact hf _

theorem Akin.hold (h : S.Akin levels S' R) {P : α → β → Prop} {d : Dialogue α} {d' : Dialogue β}
    (parallel : d.Parallel (Question.Akin levels) P d') {w : ω} {w' : ω'} (hw : R w w') :
    S.questions d w = S'.questions d' w' ∧ P (S.hold d w).1 (S'.hold d' w').1 := by
  induction parallel generalizing w w' with
  | done h => exact ⟨rfl, h⟩
  | @ask q next next' _ ih =>
    obtain ⟨hquestions, hresult⟩ := ih _ _ (h.answers q hw) (h.states q hw)
    refine ⟨?_, ?_⟩
    · rw [questions, questions, hquestions]
    · rw [hold_ask, hold_ask]
      exact hresult

end Surroundings

/-! ### Fetching -/

/-- Two task runs of one reference, whose snapshots differ in fragments. -/
structure LikeTask (x x' : ChildReference × Snapshot) : Prop where
  child : x.1 = x'.1
  snapshot : x.2.Like x'.2

section Fetching

variable {answer answer' : Except Failure Response} {k : Kind}

theorem agree_snapshot? {r : Request}
    (h : Question.Akin Json.deepest (.send r) answer answer') :
    Agree (Option.Rel Snapshot.Like) (answer.bind (Response.snapshot? k))
      (answer'.bind (Response.snapshot? k)) := by
  cases h with
  | same =>
    cases answer.bind (Response.snapshot? k) with
    | error e => exact .failed e
    | ok s => exact .ok (Json.rel_of_eq Snapshot.Like.refl rfl)
  | @documents _ status body body' _ _ success left right like =>
    have hleft := snapshot?_of_parse? (k := k) success left
    have hright : Response.snapshot? k ⟨status, body'⟩ = _ := snapshot?_of_parse? success right
    change Agree _ (Response.snapshot? k _) (Response.snapshot? k _)
    rw [hleft, hright]
    have hlike := like.snapshots (k := k)
    generalize Snapshot.ofDocument? k _ = left at hlike ⊢
    generalize Snapshot.ofDocument? k _ = right at hlike ⊢
    cases hlike with
    | none => exact .failed _
    | some h => exact .ok (.some h)

theorem gives_snapshot {S : Surroundings ω} {t : Tracker} {body : String} {doc : Json}
    {s : Snapshot} (answer : ∀ w,
      (S.answer (.send (.get (t.config.resourcePath t.kind t.name))) w).1 = .ok ⟨200, body⟩)
    (hdoc : Json.parse? body = some doc) (hs : Snapshot.ofDocument? t.kind doc = some s) :
    S.Gives t.snapshot (some s) := by
  intro w
  rw [Tracker.snapshot_run, Surroundings.hold_ask, Surroundings.hold_done, answer w]
  change Response.snapshot? t.kind ⟨200, body⟩ = .ok (some s)
  rw [snapshot?_of_parse? rfl hdoc, hs]
  rfl

theorem fails_snapshot {S : Surroundings ω} {t : Tracker} {body : String} (answer : ∀ w,
      (S.answer (.send (.get (t.config.resourcePath t.kind t.name))) w).1 = .ok ⟨200, body⟩)
    (hdoc : Json.parse? body = none) : S.Fails t.snapshot .unreadableBody := by
  intro w
  rw [Tracker.snapshot_run, Surroundings.hold_ask, Surroundings.hold_done, answer w]
  change Response.snapshot? t.kind ⟨200, body⟩ = .error .unreadableBody
  have hfound : ¬ (200 : Nat) = 404 := by decide
  have hchecked : Response.checked ⟨200, body⟩ = .ok ⟨200, body⟩ := rfl
  rw [Response.snapshot?, if_neg hfound, hchecked]
  simp only [bind, Except.bind, hdoc]

theorem snapshot_parallel (t : Tracker) : Client.Parallel (Question.Akin Json.deepest)
    (Option.Rel Snapshot.Like) t.snapshot t.snapshot := by
  unfold Client.Parallel
  rw [Tracker.snapshot_run]
  exact .ask fun answer answer' halike => .done (agree_snapshot? halike)

theorem childTaskRuns_parallel (p : PipelineRun) :
    Client.Parallel (Question.Akin Json.deepest) Eq p.childTaskRuns p.childTaskRuns := by
  refine Client.Parallel.bind (snapshot_parallel p.tracker) fun found found' hfound => .pure ?_
  cases hfound with
  | none => rfl
  | some h =>
    rw [Option.map_some, Option.map_some, Option.getD_some, Option.getD_some]
    rw [Snapshot.taskRuns, Snapshot.taskRuns, Snapshot.childrenOf, Snapshot.childrenOf, h.children]

theorem existing_parallel (p : PipelineRun) (children : List ChildReference) :
    Client.Parallel (Question.Akin Json.deepest) (List.Forall₂ LikeTask)
      (p.existing children) (p.existing children) := by
  induction children with
  | nil => exact .pure .nil
  | cons child rest ih =>
    refine Client.Parallel.bind (snapshot_parallel _) fun found found' hfound => ?_
    refine Client.Parallel.bind ih fun more more' hmore => ?_
    cases hfound with
    | none => exact .pure hmore
    | some h => exact .pure (.cons ⟨rfl, h⟩ hmore)

theorem taskRuns_parallel (p : PipelineRun) :
    Client.Parallel (Question.Akin Json.deepest) (List.Forall₂ LikeTask) p.taskRuns p.taskRuns := by
  refine Client.Parallel.bind (childTaskRuns_parallel p) fun children children' hchildren => ?_
  subst hchildren
  exact existing_parallel p children

end Fetching

/-! ### What is told -/

/-- Two records of one scope and about one thing, which say the same of it unless it is a step. -/
structure ErrorRecord.Like (r r' : ErrorRecord) : Prop where
  scope : r.scope = r'.scope
  identifier : r.identifier = r'.identifier
  detail : r.scope ≠ .step → r.detail = r'.detail

theorem ErrorRecord.Like.refl (r : ErrorRecord) : r.Like r := ⟨rfl, rfl, fun _ => rfl⟩

namespace Diagnosis

/-- What is left of an explanation after the errors of plugins that it begins with. -/
def withoutPlugins (records : List ErrorRecord) : List ErrorRecord :=
  records.dropWhile (·.scope = .plugin)

/-- Two failed tasks of one name and one condition, whose steps are alike. -/
structure FailedTask.Like (t t' : FailedTask) : Prop where
  task : t.task = t'.task
  condition : t.condition = t'.condition
  steps : List.Forall₂ Step.Like t.steps t'.steps

theorem isEmpty_eq {P : α → β → Prop} {as : List α} {bs : List β} (h : List.Forall₂ P as bs) :
    as.isEmpty = bs.isEmpty := by
  cases h <;> rfl

theorem like_refl_list (records : List ErrorRecord) :
    List.Forall₂ ErrorRecord.Like records records :=
  List.forall₂_same.mpr fun r _ => .refl r

theorem like_failedTasks (policy : StatePolicy) {xs xs' : List (ChildReference × Snapshot)}
    (h : List.Forall₂ LikeTask xs xs') :
    List.Forall₂ FailedTask.Like (failedTasks policy xs) (failedTasks policy xs') := by
  refine List.rel_filterMap (fun x x' hx => ?_) h
  obtain ⟨child, s⟩ := x
  obtain ⟨child', s'⟩ := x'
  obtain ⟨hchild, hsnapshot⟩ := hx
  obtain rfl : child = child' := hchild
  have hcondition : s.condition? = s'.condition? := by
    rw [Snapshot.condition?, Snapshot.condition?, hsnapshot.conditions]
  dsimp only
  rw [hcondition]
  cases s'.condition? with
  | none => exact .none
  | some c =>
    by_cases hfailed : policy.reportsFailure c = true
    · simp only [if_pos hfailed]
      exact .some ⟨rfl, rfl, hsnapshot.steps⟩
    · simp only [if_neg hfailed]
      exact .none

variable {t t' : FailedTask}

theorem FailedTask.Like.stepRecords (h : t.Like t') :
    List.Forall₂ ErrorRecord.Like t.stepRecords t'.stepRecords := by
  have hfailed : List.Forall₂ Step.Like (t.steps.filter (·.hasFailed))
      (t'.steps.filter (·.hasFailed)) := by
    refine List.rel_filter (fun s s' hs => ?_) h.steps
    exact iff_of_eq (congrArg (· = true) hs.failed)
  refine List.rel_map (fun s s' hs => ?_) hfailed
  refine ⟨rfl, ?_, fun hstep => absurd rfl hstep⟩
  simp only [ErrorRecord.step, h.task, hs.name]

theorem FailedTask.Like.explanation (h : t.Like t') :
    List.Forall₂ ErrorRecord.Like t.explanation t'.explanation := by
  unfold FailedTask.explanation
  have hsteps := h.stepRecords
  dsimp only
  rw [isEmpty_eq hsteps]
  by_cases hnone : t'.stepRecords.isEmpty = true
  · rw [hnone, h.condition, h.task]
    exact like_refl_list _
  · rw [Bool.not_eq_true] at hnone
    rw [hnone]
    exact hsteps

theorem FailedTask.Like.bareRecord (h : t.Like t') : t.bareRecord = t'.bareRecord := by
  rw [FailedTask.bareRecord, FailedTask.bareRecord, h.task, h.condition]

theorem fallback_eq {name : String} {pipeline pipeline' : Snapshot}
    {failed failed' : List FailedTask} (hpipeline : pipeline.Like pipeline')
    (hfailed : List.Forall₂ FailedTask.Like failed failed') :
    fallback name pipeline failed = fallback name pipeline' failed' := by
  have hbare : failed.map (·.bareRecord) = failed'.map (·.bareRecord) := by
    rw [← List.forall₂_eq_eq_eq]
    exact List.rel_map (fun t t' ht => ht.bareRecord) hfailed
  unfold fallback
  rw [Snapshot.condition?, Snapshot.condition?, hpipeline.conditions, isEmpty_eq hfailed, hbare]

theorem like_taskRecords {policy : StatePolicy} {name : String} {pipeline pipeline' : Snapshot}
    {xs xs' : List (ChildReference × Snapshot)} (hpipeline : pipeline.Like pipeline')
    (h : List.Forall₂ LikeTask xs xs') : List.Forall₂ ErrorRecord.Like
      (taskRecords policy name pipeline xs) (taskRecords policy name pipeline' xs') := by
  have hfailed := like_failedTasks policy h
  have hsaid : List.Forall₂ ErrorRecord.Like ((failedTasks policy xs).flatMap (·.explanation))
      ((failedTasks policy xs').flatMap (·.explanation)) :=
    List.rel_flatMap hfailed fun t t' ht => ht.explanation
  unfold taskRecords
  dsimp only
  rw [isEmpty_eq hsaid]
  by_cases hnone : ((failedTasks policy xs').flatMap (·.explanation)).isEmpty = true
  · rw [if_pos hnone, if_pos hnone, fallback_eq hpipeline hfailed]
    exact like_refl_list _
  · rw [if_neg hnone, if_neg hnone]
    exact hsaid

theorem withoutPlugins_narrative (policy : StatePolicy) (pluginTask name : String)
    (pipeline : Snapshot) (taskRuns : List (ChildReference × Snapshot)) :
    withoutPlugins (narrative policy pluginTask name pipeline taskRuns) =
      taskRecords policy name pipeline taskRuns := by
  have hplugins : ∀ r ∈ pluginRecords pluginTask taskRuns, decide (r.scope = .plugin) = true :=
    forall_pluginRecords fun _ _ => rfl
  rw [withoutPlugins, narrative, List.dropWhile_append_of_pos hplugins]
  have htold := told_taskRecords policy name pipeline taskRuns
  generalize taskRecords policy name pipeline taskRuns = told at htold ⊢
  cases told with
  | nil => rfl
  | cons r rest =>
    have hscopes := forall_told (P := fun r => r.scope ≠ .plugin) (fun _ _ _ h => by cases h)
      (fun _ _ _ h => by cases h) (fun _ _ _ _ h => by cases h) htold
    have hr : r.scope ≠ .plugin := hscopes r List.mem_cons_self
    exact List.dropWhile_cons_of_neg (by simpa using hr)

/-- What goes wrong in a fragment stays there. Of two servers whose answers are the same but for the
messages of terminated steps and the values of results, each in a document that can still be read:
both explanations are asked for by the same questions, and both fail alike or both succeed, and then
they say the same beside the errors of plugins, but for the details of failed steps. -/
theorem bad_fragments_stay_local {S : Surroundings ω} {S' : Surroundings ω'} {R : ω → ω' → Prop}
    (h : S.Akin Json.deepest S' R) {w : ω} {w' : ω'} (hw : R w w') (p : PipelineRun) :
    S.questions p.errorRecords.run w = S'.questions p.errorRecords.run w' ∧
    Agree (fun records records' => List.Forall₂ ErrorRecord.Like (withoutPlugins records)
        (withoutPlugins records'))
      (S.hold p.errorRecords.run w).1 (S'.hold p.errorRecords.run w').1 := by
  refine h.hold ?_ hw
  refine Client.Parallel.bind (snapshot_parallel p.tracker) fun found found' hfound => ?_
  cases hfound with
  | none => exact .pure (like_refl_list _)
  | some hpipeline =>
    refine Client.Parallel.bind (taskRuns_parallel p) fun taskRuns taskRuns' htaskRuns => .pure ?_
    rw [withoutPlugins_narrative, withoutPlugins_narrative]
    exact like_taskRecords hpipeline htaskRuns

/-! The plugin task has failed: its one step left a message, and it published annotations. -/

def pluginRun : PipelineRun :=
  ⟨{ apiUrl := "https://api.example.test", «namespace» := "ns", pluginTask := "build" }, "run"⟩

def report (message annotations : Json) : Json :=
  .object [("status", .object [
    ("conditions", .array [.object [("message", .text "disk full"), ("status", .text "False")]]),
    ("steps", .array [.object [("name", .text "compile"),
      ("terminated", .object [("exitCode", .ofInt 2), ("message", message)])]]),
    ("taskResults", .array [.object [("name", .text "annotations"), ("value", annotations)]])])]

/-- The text of the report, given the texts of the message and of the annotations. -/
def reportText (message annotations : List Char) : List Char :=
  "\x7b\"status\":\x7b\"conditions\":[\x7b\"message\":\"disk full\",".toList ++
    "\"status\":\"False\"\x7d],\"steps\":[\x7b\"name\":\"compile\",".toList ++
    "\"terminated\":\x7b\"exitCode\":2,\"message\":".toList ++ message ++
    "\x7d\x7d],\"taskResults\":[\x7b\"name\":\"annotations\",\"value\":".toList ++
    annotations ++ "\x7d]\x7d\x7d".toList

def runText : String :=
  statusDocument "\"childReferences\":[\x7b\"kind\":\"TaskRun\",\"name\":\"build\"\x7d]"

def reportServer (body : String) : Surroundings Unit :=
  .still fun r =>
    if r.path = "apis/tekton.dev/v1beta1/namespaces/ns/taskruns/build" then .ok ⟨200, body⟩
    else .ok ⟨200, runText⟩

theorem like_report (message message' : String) (annotations annotations' : Json) :
    LikeDocument (report (.text message) annotations) (report (.text message') annotations') := by
  have hending : LikeTermination (.object [("exitCode", .ofInt 2), ("message", .text message)])
      (.object [("exitCode", .ofInt 2), ("message", .text message')]) := by
    refine .apart rfl rfl fun name _ => ?_
    by_cases hname : "message" = name
    · subst hname
      exact .inr ⟨rfl, .text message, .text message'⟩
    · exact .inl (by simp [Table.get?_cons, hname])
  have hstep := fun v v' (h : LikeTermination v v') => show LikeStep
      (.object [("name", .text "compile"), ("terminated", v)])
      (.object [("name", .text "compile"), ("terminated", v')]) from by
    refine .apart rfl rfl fun name _ => ?_
    by_cases hname : "terminated" = name
    · subst hname
      exact .inr ⟨rfl, .some h⟩
    · exact .inl (by simp [Table.get?_cons, hname])
  have hresult : LikeResult (.object [("name", .text "annotations"), ("value", annotations)])
      (.object [("name", .text "annotations"), ("value", annotations')]) := by
    refine .apart rfl rfl fun name _ => ?_
    by_cases hname : "value" = name
    · exact .inr hname.symm
    · exact .inl (by simp [Table.get?_cons, hname])
  refine .apart rfl rfl fun name _ => ?_
  by_cases hname : "status" = name
  · subst hname
    refine .inr ⟨rfl, .some (.apart rfl rfl fun name _ => ?_)⟩
    by_cases hsteps : "steps" = name
    · subst hsteps
      exact .inr (.inl ⟨rfl, .some (.array (.cons (hstep _ _ hending) .nil))⟩)
    · by_cases hresults : "taskResults" = name
      · subst hresults
        exact .inr (.inr ⟨by decide, .some (.array (.cons hresult .nil))⟩)
      · exact .inl (by simp [Table.get?_cons, hsteps, hresults])
  · exact .inl (by simp [Table.get?_cons, hname])

theorem akin_reportServer {levels : Nat} {body body' : String} {doc doc' : Json}
    (left : Json.parseWithin? levels body = some doc)
    (right : Json.parseWithin? levels body' = some doc') (like : LikeDocument doc doc') :
    (reportServer body).Akin levels (reportServer body') Eq where
  answers q := by
    rintro w _ rfl
    cases q with
    | send r =>
      by_cases hpath : r.path = "apis/tekton.dev/v1beta1/namespaces/ns/taskruns/build"
      · simp only [reportServer, Surroundings.still, if_pos hpath]
        exact .documents r rfl left right like
      · simp only [reportServer, Surroundings.still, if_neg hpath]
        exact .same _ _
    | _ => exact .same _ _
  states q := by
    rintro w _ rfl
    rfl

/-- A text that is given by its characters need not be decoded. -/
theorem tree_ofList (cs : List Char) : Json.Tree.ofString? (String.ofList cs) =
    ((Json.Token.scan? [] cs).map List.reverse).bind Json.Tree.ofTokens? := by
  rw [Json.Tree.ofString?, Json.Token.ofString?, String.toList_ofList]

/-- The document that the text of a report spells within some levels, and what is read of it. -/
theorem values_of_scan {cs : List Char} {levels : Nat} {wide narrow : Option Json}
    (h : (((Json.Token.scan? [] cs).map List.reverse).bind Json.Tree.ofTokens?).map
      (fun t => (t.value? levels, t.value? Json.deepest)) = some (wide, narrow)) :
    Json.parseWithin? levels (String.ofList cs) = wide ∧
      Json.parse? (String.ofList cs) = narrow := by
  obtain ⟨tree, htree, hvalues⟩ := Option.map_eq_some_iff.mp h
  rw [Json.parseWithin?, Json.parse?, tree_ofList, htree]
  exact Prod.mk.inj hvalues

def runSnapshot : Snapshot where
  kind := "PipelineRun"
  name := ""
  conditions := []
  children := [⟨some "TaskRun", "build", none⟩]
  podReference := none
  steps := []
  results := []
  labels := []
  annotations := []
  raw := .object [("status", .object [("childReferences",
    .array [.object [("kind", .text "TaskRun"), ("name", .text "build")]])])]

theorem gives_run (body : String) :
    (reportServer body).Gives pluginRun.tracker.snapshot (some runSnapshot) := by
  have hdoc : (Json.parse? runText).bind (Snapshot.ofDocument? .pipelineRun) =
      some runSnapshot := by decide +kernel
  obtain ⟨doc, hparse, hsnapshot⟩ := Option.bind_eq_some_iff.mp hdoc
  exact gives_snapshot (fun w => rfl) hparse hsnapshot

def deepValue : Json := (List.range 129).foldl (fun v _ => .array [v]) (.array [])

def deepText : List Char :=
  reportText "\"garbage\"".toList (List.replicate 130 '[' ++ List.replicate 130 ']')

theorem deepText_values :
    Json.parseWithin? 140 (String.ofList deepText) = some (report (.text "garbage") deepValue) ∧
      Json.parse? (String.ofList deepText) = none :=
  values_of_scan (by decide +kernel)

def shallowText : List Char := reportText "\"garbage\"".toList ['[', ']']

theorem shallowText_values :
    Json.parseWithin? 140 (String.ofList shallowText) =
        some (report (.text "garbage") (.array [])) ∧
      Json.parse? (String.ofList shallowText) = some (report (.text "garbage") (.array [])) :=
  values_of_scan (by decide +kernel)

theorem gives_shallow :
    ∃ records, (reportServer (String.ofList shallowText)).Gives pluginRun.errorRecords records := by
  have hsome : (Snapshot.ofDocument? .taskRun (report (.text "garbage") (.array []))).isSome =
      true := by decide +kernel
  obtain ⟨s, hs⟩ := Option.isSome_iff_exists.mp hsome
  have htask (c : ChildReference) (hc : c ∈ runSnapshot.taskRuns) :
      (reportServer (String.ofList shallowText)).Gives (pluginRun.taskRun c).snapshot (some s) := by
    have hchild : runSnapshot.taskRuns = [⟨some "TaskRun", "build", none⟩] := by decide
    rw [hchild, List.mem_singleton] at hc
    subst hc
    exact gives_snapshot (fun w => rfl) shallowText_values.2 hs
  have hrecords := errorRecords_complete _ pluginRun (some runSnapshot) (fun _ => some s)
    (gives_run _) (by rintro _ ⟨⟩; exact htask)
  exact hrecords.imp fun records h => h.1

theorem fails_deep :
    (reportServer (String.ofList deepText)).Fails pluginRun.errorRecords .unreadableBody := by
  have htask : (reportServer (String.ofList deepText)).Fails
      (pluginRun.taskRun ⟨some "TaskRun", "build", none⟩).snapshot .unreadableBody :=
    fails_snapshot (fun w => rfl) deepText_values.2
  have hchildren : (reportServer (String.ofList deepText)).Gives pluginRun.childTaskRuns
      [⟨some "TaskRun", "build", none⟩] := (gives_run _).bind (.pure _)
  have htaskRuns : (reportServer (String.ofList deepText)).Fails pluginRun.taskRuns
      .unreadableBody := hchildren.bind_fails htask.bind
  exact (gives_run _).bind_fails htaskRuns.bind

/-- The annotations nest so deep that the document is not read, although it is JSON, and the
explanation fails. -/
theorem deep_fragment_spoils_document : ¬ ∀ (levels : Nat) (S S' : Surroundings Unit)
    (R : Unit → Unit → Prop) (w w' : Unit) (p : PipelineRun), S.Akin levels S' R → R w w' →
      Agree (fun records records' => List.Forall₂ ErrorRecord.Like (withoutPlugins records)
        (withoutPlugins records'))
      (S.hold p.errorRecords.run w).1 (S'.hold p.errorRecords.run w').1 := by
  intro h
  have hakin : (reportServer (String.ofList shallowText)).Akin 140
      (reportServer (String.ofList deepText)) Eq :=
    akin_reportServer shallowText_values.1 deepText_values.1 (like_report _ _ _ _)
  have hall := h 140 _ _ _ () () pluginRun hakin rfl
  obtain ⟨records, hrecords⟩ := gives_shallow
  rw [hrecords (), fails_deep ()] at hall
  cases hall

def soundText : List Char :=
  reportText
    "\"[\x7b\\\"key\\\":\\\"task_result\\\",\\\"value\\\":\\\"no memory\\\"\x7d]\"".toList
    "\x7b\"plugins-metadata\":\x7b\"errors\":\x7b\"lint\":\"2 findings\"\x7d\x7d\x7d".toList

def spoiledText : List Char := reportText "\"garbage\"".toList "\"garbage\"".toList

/-- The message does not list entries any more, and the annotations are no object. -/
theorem bad_fragments_stay_local_garbage :
    (reportServer (String.ofList soundText)).Akin Json.deepest
        (reportServer (String.ofList spoiledText)) Eq ∧
      Agree (fun records records' => List.Forall₂ ErrorRecord.Like (withoutPlugins records)
          (withoutPlugins records'))
        ((reportServer (String.ofList soundText)).hold pluginRun.errorRecords.run ()).1
        ((reportServer (String.ofList spoiledText)).hold pluginRun.errorRecords.run ()).1 := by
  have hsound : Json.parseWithin? Json.deepest (String.ofList soundText) =
      some (report (.text "[\x7b\"key\":\"task_result\",\"value\":\"no memory\"\x7d]")
        (.object [("plugins-metadata", .object [("errors",
          .object [("lint", .text "2 findings")])])])) := by
    rw [Json.parseWithin?, tree_ofList]
    decide +kernel
  have hspoiled : Json.parseWithin? Json.deepest (String.ofList spoiledText) =
      some (report (.text "garbage") (.text "garbage")) := by
    rw [Json.parseWithin?, tree_ofList]
    decide +kernel
  have hakin := akin_reportServer hsound hspoiled (like_report _ _ _ _)
  exact ⟨hakin, (bad_fragments_stay_local hakin rfl pluginRun).2⟩

end Diagnosis

end PipelineObserver
