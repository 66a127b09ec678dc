import Mathlib.Data.List.Basic
import PipelineObserver.Aggregate.Summary
import PipelineObserver.Proofs.Surroundings
import PipelineObserver.Proofs.Watch.Channel
/-!
The explanation of a failed pipeline run leaves nothing out: it is made of the errors of plugins and
of what the task runs tell, in the order of the pipeline run, and it is never empty.
-/
namespace PipelineObserver.Diagnosis

/-- The task runs that a pipeline run lists and that were found, in its order. -/
def present (found : ChildReference → Option Snapshot) (pipeline : Snapshot) :
    List (ChildReference × Snapshot) :=
  pipeline.taskRuns.filterMap fun c => (found c).map fun s => (c, s)

/-- The task runs whose first condition reports a failure, each with that condition. -/
def blamed (policy : StatePolicy) (taskRuns : List (ChildReference × Snapshot)) :
    List (ChildReference × Snapshot × Condition) :=
  taskRuns.filterMap fun (child, s) =>
    (s.condition?.filter policy.reportsFailure).map fun c => (child, s, c)

/-- The steps that terminated with an exit code other than zero. -/
def brokenSteps (s : Snapshot) : List Step :=
  s.steps.filter fun step => step.terminated.any (·.exitCode ≠ 0)

/-- What a task run has to tell of its failure: a record for each broken step, or else its message,
if there is one. -/
def share (child : ChildReference) (s : Snapshot) (c : Condition) : List ErrorRecord :=
  match brokenSteps s with
  | [] => if c.message = "" then [] else [.task child.taskName c.message]
  | steps => steps.map fun step => .step child.taskName step.name (stepDetail step)

/-- The shares of all task runs that report a failure, in their order. -/
def shares (policy : StatePolicy) (taskRuns : List (ChildReference × Snapshot)) :
    List ErrorRecord :=
  (blamed policy taskRuns).flatMap fun (child, s, c) => share child s c

/-- The pipeline run says nothing itself. -/
def Silent (pipeline : Snapshot) : Prop := ∀ c, pipeline.condition? = some c → c.message = ""

/-- What is told beside the errors of plugins. -/
inductive Told (policy : StatePolicy) (name : String) (pipeline : Snapshot)
    (taskRuns : List (ChildReference × Snapshot)) : List ErrorRecord → Prop
  -- The task runs tell something.
  | tasks (h : shares policy taskRuns ≠ []) :
      Told policy name pipeline taskRuns (shares policy taskRuns)
  -- They do not, but the pipeline run has a message.
  | message (h : shares policy taskRuns = []) (c : Condition)
      (first : pipeline.condition? = some c) (some : c.message ≠ "") :
      Told policy name pipeline taskRuns [.pipeline name c.message]
  -- Nor has it one, and all that is known of the failed task runs are their reasons.
  | reasons (h : shares policy taskRuns = []) (silent : Silent pipeline)
      (failed : blamed policy taskRuns ≠ []) :
      Told policy name pipeline taskRuns ((blamed policy taskRuns).map fun (child, _, c) =>
        .task child.taskName ("task run finished with reason '" ++ c.reason ++ "'"))
  -- No task run failed, and nothing is known at all.
  | nothing (h : shares policy taskRuns = []) (silent : Silent pipeline)
      (failed : blamed policy taskRuns = []) :
      Told policy name pipeline taskRuns
        [.pipeline name "pipeline run failed without an error message"]

theorem told_ne_nil {policy : StatePolicy} {name : String} {pipeline : Snapshot}
    {taskRuns : List (ChildReference × Snapshot)} {told : List ErrorRecord}
    (h : Told policy name pipeline taskRuns told) : told ≠ [] := by
  cases h with
  | tasks h => exact h
  | message _ c _ _ => exact List.cons_ne_nil _ _
  | reasons _ _ failed => exact fun h => failed (List.map_eq_nil_iff.mp h)
  | nothing _ _ _ => exact List.cons_ne_nil _ _

/-! ### What the explanation is made of -/

theorem failedTasks_eq_blamed (policy : StatePolicy) (taskRuns : List (ChildReference × Snapshot)) :
    failedTasks policy taskRuns =
      (blamed policy taskRuns).map fun (child, s, c) => ⟨child.taskName, c, s.steps⟩ := by
  rw [failedTasks, blamed, List.map_filterMap]
  apply List.filterMap_congr
  intro x _
  obtain ⟨child, s⟩ := x
  cases hc : s.condition? with
  | none => simp only [Option.filter_none, Option.map_none, hc]
  | some c =>
    by_cases hr : policy.reportsFailure c = true
    · simp only [hc, hr, Option.filter_some, ↓reduceIte, Option.map_some]
    · simp only [hc, hr, Option.filter_some, ↓reduceIte, Option.map_none, Bool.false_eq_true]

theorem filter_hasFailed (s : Snapshot) : s.steps.filter (·.hasFailed) = brokenSteps s := by
  apply List.filter_congr
  intro step _
  unfold Step.hasFailed
  cases step.terminated <;> rfl

theorem explanation_eq_share (child : ChildReference) (s : Snapshot) (c : Condition) :
    FailedTask.explanation ⟨child.taskName, c, s.steps⟩ = share child s c := by
  simp only [FailedTask.explanation, FailedTask.stepRecords, filter_hasFailed, share]
  cases brokenSteps s with
  | nil =>
    by_cases hm : c.message = ""
    · simp only [hm, List.map_nil, List.isEmpty_nil, Bool.not_true, Bool.false_eq_true, ne_eq,
        not_true_eq_false, ↓reduceIte]
    · simp only [hm, List.map_nil, List.isEmpty_nil, Bool.not_true, Bool.false_eq_true, ne_eq,
        not_false_eq_true, ↓reduceIte]
  | cons step rest => rfl

theorem said_eq_shares (policy : StatePolicy) (taskRuns : List (ChildReference × Snapshot)) :
    (failedTasks policy taskRuns).flatMap (·.explanation) = shares policy taskRuns := by
  rw [failedTasks_eq_blamed, List.flatMap_map, shares]
  apply List.flatMap_congr
  intro x _
  exact explanation_eq_share x.1 x.2.1 x.2.2

/-- The pipeline run is silent just if the message looked for in the fallback is not there. -/
theorem silent_iff (pipeline : Snapshot) :
    Silent pipeline ↔ (pipeline.condition?.map (·.message)).filter (· ≠ "") = none := by
  simp only [Silent, Option.filter_eq_none_iff, Option.map_eq_some_iff]
  constructor
  · rintro h _ ⟨c, hc, rfl⟩
    simpa using h c hc
  · intro h c hc
    simpa using h c.message ⟨c, hc, rfl⟩

theorem told_taskRecords (policy : StatePolicy) (name : String) (pipeline : Snapshot)
    (taskRuns : List (ChildReference × Snapshot)) :
    Told policy name pipeline taskRuns (taskRecords policy name pipeline taskRuns) := by
  simp only [taskRecords, said_eq_shares]
  by_cases hs : shares policy taskRuns = []
  · rw [if_pos (List.isEmpty_iff.mpr hs), fallback]
    cases hm : (pipeline.condition?.map (·.message)).filter (· ≠ "") with
    | some message =>
      obtain ⟨hmap, hne⟩ := Option.filter_eq_some_iff.mp hm
      obtain ⟨c, hc, rfl⟩ := Option.map_eq_some_iff.mp hmap
      exact .message hs c hc (by simpa using hne)
    | none =>
      have hsilent : Silent pipeline := (silent_iff pipeline).mpr hm
      by_cases hb : blamed policy taskRuns = []
      · simp only [failedTasks_eq_blamed, hb, List.map_nil, List.isEmpty_nil, ↓reduceIte]
        exact .nothing hs hsilent hb
      · have hf : (failedTasks policy taskRuns).isEmpty = false := by
          rw [failedTasks_eq_blamed, List.isEmpty_map]
          simpa only [List.isEmpty_eq_false_iff] using hb
        simp only [hf, Bool.false_eq_true, ↓reduceIte]
        rw [failedTasks_eq_blamed, List.map_map]
        exact .reasons hs hsilent hb
  · rw [if_neg (by simpa only [List.isEmpty_iff] using hs)]
    exact .tasks hs

/-! ### Fetching what it is made of -/

section Fetching

variable {ω : Type} {S : Surroundings ω} {p : PipelineRun} {allowed : Exchange → Prop}

theorem comesTo_existing (found : ChildReference → Option Snapshot) (children : List ChildReference)
    (fetched : ∀ c ∈ children, Client.ComesTo allowed (p.taskRun c).snapshot (found c)) :
    Client.ComesTo allowed (p.existing children)
      (children.filterMap fun c => (found c).map fun s => (c, s)) := by
  induction children with
  | nil => exact .pure []
  | cons c rest ih =>
    have hc := fetched c List.mem_cons_self
    have hrest := ih fun d hd => fetched d (List.mem_cons_of_mem c hd)
    refine hc.bind (hrest.bind ?_)
    rw [List.filterMap_cons]
    cases found c with
    | none => exact .pure _
    | some s => exact .pure _

theorem comesTo_taskRuns {pipeline : Option Snapshot} {found : ChildReference → Option Snapshot}
    (run : Client.ComesTo allowed p.tracker.snapshot pipeline)
    (tasks : ∀ c ∈ (pipeline.map Snapshot.taskRuns).getD [],
      Client.ComesTo allowed (p.taskRun c).snapshot (found c)) :
    Client.ComesTo allowed p.taskRuns (((pipeline.map Snapshot.taskRuns).getD []).filterMap
      fun c => (found c).map fun s => (c, s)) := by
  have hchildren : Client.ComesTo allowed p.childTaskRuns
      ((pipeline.map Snapshot.taskRuns).getD []) := run.bind (.pure _)
  exact hchildren.bind (comesTo_existing found _ tasks)

theorem comesTo_of_gives {t : Tracker} {found : Option Snapshot} (h : S.Gives t.snapshot found) :
    Client.ComesTo S.CanAnswer t.snapshot found := by
  intro asked result hasked each
  rw [Tracker.snapshot_run] at hasked
  obtain ⟨answer, rest, rfl, hrest⟩ := Dialogue.follows_ask_iff.mp hasked
  obtain ⟨-, rfl⟩ := Dialogue.follows_done_iff.mp hrest
  obtain ⟨w, hanswer⟩ := each _ List.mem_cons_self
  have hfound := h w
  rw [Tracker.snapshot_run, Surroundings.hold_ask, Surroundings.hold_done, hanswer] at hfound
  exact hfound

theorem gives_taskRuns {found : ChildReference → Option Snapshot} {pipeline : Snapshot}
    (run : S.Gives p.tracker.snapshot (some pipeline))
    (tasks : ∀ c ∈ pipeline.taskRuns, S.Gives (p.taskRun c).snapshot (found c)) :
    S.Gives p.taskRuns (present found pipeline) :=
  (comesTo_taskRuns (comesTo_of_gives run) fun c hc => comesTo_of_gives (tasks c hc)).gives

end Fetching

theorem render_ne_empty {records : List ErrorRecord} (h : records ≠ []) :
    ErrorRecord.render records ≠ "" := by
  obtain ⟨r, rest, rfl⟩ := List.exists_cons_of_ne_nil h
  have hline : r.display ++ "\n" ≠ "" := fun he =>
    absurd (String.append_eq_empty_iff.mp he).2 (by decide)
  rw [ErrorRecord.render, List.map_cons, String.join_cons]
  exact fun he => hline (String.append_eq_empty_iff.mp he).1

/-- Whatever the documents of a pipeline run and of its task runs are, as long as they stay the same
and can be read: the explanation is the errors of plugins, from the first task run of the plugin
task, and then what is told of the task runs or in their place. That of a missing pipeline run says
so. Neither the explanation nor its text is ever empty. -/
theorem errorRecords_complete {ω : Type} (S : Surroundings ω) (p : PipelineRun)
    (pipeline : Option Snapshot) (found : ChildReference → Option Snapshot)
    (run : S.Gives p.tracker.snapshot pipeline)
    (tasks : ∀ s, pipeline = some s → ∀ c ∈ s.taskRuns, S.Gives (p.taskRun c).snapshot (found c)) :
    ∃ records, S.Gives p.errorRecords records ∧
      S.Gives p.errorMessage (ErrorRecord.render records) ∧
      records ≠ [] ∧ ErrorRecord.render records ≠ "" ∧
      match pipeline with
      | none => records = [.pipeline p.name "pipeline run does not exist"]
      | some s => ∃ told, Told p.config.policy p.name s (present found s) told ∧
          records = (((present found s).find? fun x => x.1.taskName = p.config.pluginTask).elim []
            fun x => pluginErrors x.2) ++ told := by
  cases pipeline with
  | none =>
    have hr : S.Gives p.errorRecords (missing p.name) := run.bind (.pure _)
    have hne : missing p.name ≠ [] := List.cons_ne_nil _ _
    exact ⟨missing p.name, hr, hr.bind (.pure _), hne, render_ne_empty hne, rfl⟩
  | some s =>
    let told := taskRecords p.config.policy p.name s (present found s)
    have htold : Told p.config.policy p.name s (present found s) told := told_taskRecords _ _ _ _
    have hr : S.Gives p.errorRecords
        (narrative p.config.policy p.config.pluginTask p.name s (present found s)) :=
      run.bind ((gives_taskRuns run (tasks s rfl)).bind (.pure _))
    have hne : narrative p.config.policy p.config.pluginTask p.name s (present found s) ≠ [] :=
      List.append_ne_nil_of_right_ne_nil _ (told_ne_nil htold)
    refine ⟨_, hr, hr.bind (.pure _), hne, render_ne_empty hne, told, htold, ?_⟩
    rw [narrative, pluginRecords]
    cases (present found s).find? _ <;> rfl

/-! A pipeline run with two task runs, of which the first is gone and the second has failed. -/

def halfGone : PipelineRun := ⟨{ apiUrl := "https://api.example.test", «namespace» := "ns" }, "run"⟩

/-- The document of a run with a status. -/
def statusDocument (status : String) : String := "\x7b\"status\":\x7b" ++ status ++ "\x7d\x7d"

def halfGoneRule (r : Request) : Except Failure Response :=
  match Table.get? r.path [
    ("apis/tekton.dev/v1beta1/namespaces/ns/pipelineruns/run",
      "\"childReferences\":[\x7b\"kind\":\"TaskRun\",\"name\":\"a\"\x7d," ++
        "\x7b\"kind\":\"TaskRun\",\"name\":\"b\"\x7d]"),
    ("apis/tekton.dev/v1beta1/namespaces/ns/taskruns/b",
      "\"conditions\":[\x7b\"status\":\"False\",\"message\":\"disk full\"\x7d]")] with
  | some status => .ok ⟨200, statusDocument status⟩
  | none => .ok ⟨404, "not found"⟩

def halfGoneSnapshot : Snapshot where
  kind := "PipelineRun"
  name := ""
  conditions := []
  children := [⟨some "TaskRun", "a", none⟩, ⟨some "TaskRun", "b", none⟩]
  podReference := none
  steps := []
  results := []
  labels := []
  annotations := []
  raw := .object [("status", .object [("childReferences", .array [
    .object [("kind", .text "TaskRun"), ("name", .text "a")],
    .object [("kind", .text "TaskRun"), ("name", .text "b")]])])]

def failedSnapshot : Snapshot where
  kind := "TaskRun"
  name := ""
  conditions := [⟨.false, "", "disk full", none⟩]
  children := []
  podReference := none
  steps := []
  results := []
  labels := []
  annotations := []
  raw := .object [("status", .object [("conditions", .array [
    .object [("message", .text "disk full"), ("status", .text "False")]])])]

def halfGoneFound (c : ChildReference) : Option Snapshot :=
  if c.name = "b" then some failedSnapshot else none

theorem halfGone_gives :
    (Surroundings.still halfGoneRule).Gives halfGone.tracker.snapshot (some halfGoneSnapshot) := by
  intro ()
  decide +kernel

theorem halfGone_gives_found : ∀ c ∈ halfGoneSnapshot.taskRuns,
    (Surroundings.still halfGoneRule).Gives (halfGone.taskRun c).snapshot (halfGoneFound c) := by
  have hc : halfGoneSnapshot.taskRuns =
      [⟨some "TaskRun", "a", none⟩, ⟨some "TaskRun", "b", none⟩] := by decide
  rw [hc]
  intro c hmem
  rcases List.mem_pair.mp hmem with rfl | rfl
  · intro ()
    decide +kernel
  · intro ()
    decide +kernel

/-- The failed task run alone tells something, and the one that is gone is passed over. -/
theorem errorRecords_complete_half_gone :
    (Surroundings.still halfGoneRule).Gives halfGone.tracker.snapshot (some halfGoneSnapshot) ∧
      (∀ c ∈ halfGoneSnapshot.taskRuns,
        (Surroundings.still halfGoneRule).Gives (halfGone.taskRun c).snapshot (halfGoneFound c)) ∧
      (Surroundings.still halfGoneRule).Gives halfGone.errorRecords [.task "b" "disk full"] := by
  refine ⟨halfGone_gives, halfGone_gives_found, ?_⟩
  obtain ⟨records, hr, -, -, -, told, htold, rfl⟩ := errorRecords_complete
    (Surroundings.still halfGoneRule) halfGone (some halfGoneSnapshot) halfGoneFound
    halfGone_gives (by rintro s ⟨⟩; exact halfGone_gives_found)
  have hshares : shares halfGone.config.policy (present halfGoneFound halfGoneSnapshot) =
      [.task "b" "disk full"] := by decide
  cases htold with
  | tasks _ => rwa [hshares] at hr
  | message h => rw [hshares] at h; cases h
  | reasons h => rw [hshares] at h; cases h
  | nothing h => rw [hshares] at h; cases h

end PipelineObserver.Diagnosis
