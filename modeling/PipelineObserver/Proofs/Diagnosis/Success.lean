import PipelineObserver.Proofs.Diagnosis.Details
import PipelineObserver.Proofs.Tracker.Agreement
/-!
The views of success under the default policy. One goes by the status of a condition, the others by
its reason, so that they disagree about conditions whose status and reason do, and about no others:
`views_of_success`.
-/
namespace PipelineObserver

namespace Condition

/-- The reasons that mean cancelled unless a policy says otherwise. -/
def cancellations : List String := ["PipelineRunCancelled", "TaskRunCancelled", "Cancelled"]

variable (c : Condition)

/-- A success by the status, whose reason is neither the known one nor a cancellation. -/
def Unlisted : Prop := c.status = .true ∧ c.reason ≠ "Succeeded" ∧ c.reason ∉ cancellations

/-- A success by the reason, and not by the status. -/
def Misnamed : Prop := c.status ≠ .true ∧ c.reason = "Succeeded"

end Condition

namespace StatePolicy

variable {p : StatePolicy} (default : p = {}) (c : Condition)

include default

theorem isSucceeded_iff : p.isSucceeded c.reason = true ↔ c.reason = "Succeeded" := by
  simp [default, isSucceeded]

theorem isCancelled_iff : p.isCancelled c.reason = true ↔ c.reason ∈ Condition.cancellations := by
  simp [default, isCancelled, Condition.cancellations]

theorem lifecycle_succeeded_iff : p.lifecycle (some c) = .succeeded ↔
    c.status = .true ∧ c.reason ∉ Condition.cancellations := by
  rw [← isCancelled_iff default c, Bool.not_eq_true]
  have hclass := p.classified c
  generalize p.lifecycle (some c) = l at hclass
  cases hclass with
  | cancelled h => simp [h]
  | _ h status => simp [h, status]

theorem succeeded_agrees_iff :
    (p.isSucceeded c.reason = true ↔ p.lifecycle (some c) = .succeeded) ↔
      ¬ c.Unlisted ∧ ¬ c.Misnamed := by
  -- The known reason of a success is not that of a cancellation as well.
  have hknown : c.reason = "Succeeded" → c.reason ∉ Condition.cancellations := by
    intro h
    rw [h]
    decide
  rw [isSucceeded_iff default, lifecycle_succeeded_iff default, Condition.Unlisted,
    Condition.Misnamed]
  generalize (c.reason ∈ Condition.cancellations) = cancelled at hknown ⊢
  grind

theorem reportsFailure_iff : p.reportsFailure c = true ↔
    c.status.isTerminal = true ∧ c.reason ≠ "Succeeded" ∧ c.reason ≠ "None" := by
  simp [default, reportsFailure, isSucceeded, isSkipped, and_assoc]

/-- A condition that reports a failure is shown as one, but for the successes whose reason is not on
a list. -/
theorem reported_success_iff : (p.reportsFailure c = true ∧ p.lifecycle (some c) ≠ .failed ∧
    p.lifecycle (some c) ≠ .cancelled) ↔ c.Unlisted ∧ c.reason ≠ "None" := by
  rw [reportsFailure_iff default, Condition.Unlisted, ← isCancelled_iff default c,
    Bool.not_eq_true]
  have hclass := p.classified c
  generalize p.lifecycle (some c) = l at hclass
  cases hclass with
  | cancelled h => simp [h]
  | _ h status => simp [h, status, ConditionStatus.isTerminal]

end StatePolicy

/-! ### What is asked of a tracker -/

section Asked

variable {α β : Type} {q : Question}

/-- A client that does no more than to put one question. -/
theorem Client.run_map {x : Client α} {g : q.Answer → Except Failure α}
    (h : x.run = .ask q fun answer => .done (g answer)) (f : α → β) :
    (do return f (← x) : Client β).run = .ask q fun answer => .done ((g answer).map f) := by
  change x.run.bind (ExceptT.bindCont fun a => pure (f a)) = _
  rw [h, Dialogue.bind_ask]
  congr 1
  funext answer
  cases g answer <;> rfl

theorem Dialogue.follows_ask_done_iff {g : q.Answer → α} {answer : q.Answer} {a : α} :
    (Dialogue.ask q fun answer => .done (g answer)).Follows [⟨q, answer⟩] a ↔ a = g answer := by
  rw [Dialogue.follows_ask_iff]
  constructor
  · rintro ⟨answer', rest, hlist, hdone⟩
    cases hlist
    exact (Dialogue.follows_done_iff.mp hdone).2
  · rintro rfl
    exact ⟨answer, [], rfl, .done _⟩

end Asked

namespace Tracker

variable (t : Tracker) {answer : Except Failure Response} {s : Snapshot} {c : Condition}

/-- The views of success on a first condition, under the default policy, when it is asked for. -/
structure Views (t : Tracker) (answer : Except Failure Response) (c : Condition) : Prop where
  hasSucceeded : ∀ result, t.hasSucceeded.run.Follows [t.lookedUp answer] result ↔
    result = .ok (decide (c.reason = "Succeeded"))
  lifecycle : ∀ result, t.lifecycle.run.Follows [t.lookedUp answer] result ↔
    result = .ok (t.config.policy.lifecycle (some c))
  succeeded : t.config.policy.lifecycle (some c) = .succeeded ↔
    c.status = .true ∧ c.reason ∉ Condition.cancellations
  agree : (c.reason = "Succeeded" ↔ t.config.policy.lifecycle (some c) = .succeeded) ↔
    ¬ c.Unlisted ∧ ¬ c.Misnamed
  reports : (t.config.policy.reportsFailure c = true ∧
    t.config.policy.lifecycle (some c) ≠ .failed ∧
    t.config.policy.lifecycle (some c) ≠ .cancelled) ↔ c.Unlisted ∧ c.reason ≠ "None"

/-- A query that looks the resource up once, and answers from its first condition. -/
theorem follows_of_condition {β : Type} {x : Client β} {f : Option Condition → β}
    (hx : x = do return f (← t.condition?))
    (found : answer.bind (Response.snapshot? t.kind) = .ok (some s)) (result : Except Failure β) :
    x.run.Follows [t.lookedUp answer] result ↔ result = .ok (f s.condition?) := by
  have hcondition : t.condition?.run = _ :=
    Client.run_map t.snapshot_run (·.bind Snapshot.condition?)
  rw [hx, Client.run_map hcondition f, lookedUp, Dialogue.follows_ask_done_iff, found]
  rfl

theorem views (default : t.config.policy = {})
    (found : answer.bind (Response.snapshot? t.kind) = .ok (some s))
    (first : s.condition? = some c) : t.Views answer c := by
  have hknown := StatePolicy.isSucceeded_iff default c
  refine ⟨?_, ?_, StatePolicy.lifecycle_succeeded_iff default c, ?_,
    StatePolicy.reported_success_iff default c⟩
  · intro result
    have hasked : t.hasSucceeded = do
        return ((← t.condition?).map (·.reason)).any t.config.policy.isSucceeded := by
      rw [hasSucceeded, reason?]
      simp
    have hvalue : t.config.policy.isSucceeded c.reason = decide (c.reason = "Succeeded") := by
      rw [Bool.eq_iff_iff, hknown, decide_eq_true_iff]
    rw [t.follows_of_condition hasked found, first, Option.map_some, Option.any_some, hvalue]
  · intro result
    have hasked : t.lifecycle = do return t.config.policy.lifecycle (← t.condition?) := rfl
    rw [t.follows_of_condition hasked found, first]
  · rw [← hknown]
    exact StatePolicy.succeeded_agrees_iff default c

end Tracker

/-! ### What is told of task runs -/

namespace Diagnosis

/-- What a task run can add to an explanation: its share, or its reason if nothing else is known. -/
def contribution (child : ChildReference) (s : Snapshot) (c : Condition) : List ErrorRecord :=
  share child s c ++ [.task child.taskName ("task run finished with reason '" ++ c.reason ++ "'")]

variable {policy : StatePolicy} {taskRuns : List (ChildReference × Snapshot)}

theorem reports_of_blamed {x : ChildReference × Snapshot × Condition}
    (h : x ∈ blamed policy taskRuns) :
    x.2.1.condition? = some x.2.2 ∧ policy.reportsFailure x.2.2 = true := by
  obtain ⟨y, -, hx⟩ := List.mem_filterMap.mp h
  obtain ⟨c, hc, rfl⟩ := Option.map_eq_some_iff.mp hx
  exact Option.filter_eq_some_iff.mp hc

theorem contributed {name : String} {pipeline : Snapshot} {told : List ErrorRecord}
    (h : Told policy name pipeline taskRuns told) : ∀ r ∈ told, r.scope = .pipeline ∨
      ∃ x ∈ blamed policy taskRuns, r ∈ contribution x.1 x.2.1 x.2.2 := by
  intro r hr
  cases h with
  | tasks =>
    obtain ⟨x, hx, hshare⟩ := List.mem_flatMap.mp hr
    exact .inr ⟨x, hx, List.mem_append_left _ hshare⟩
  | message _ c _ _ =>
    rw [List.mem_singleton.mp hr]
    exact .inl rfl
  | reasons =>
    obtain ⟨x, hx, rfl⟩ := List.mem_map.mp hr
    exact .inr ⟨x, hx, List.mem_append_right _ (List.mem_singleton_self _)⟩
  | nothing =>
    rw [List.mem_singleton.mp hr]
    exact .inl rfl

/-- A task run that was found to report a failure, and a record that it contributed. -/
structure Contributed (p : PipelineRun) (asked : List Exchange) (r : ErrorRecord) (c : Condition) :
    Prop where
  task : ∃ child s, (p.taskRun child).Found asked s ∧ s.condition? = some c ∧
    r ∈ contribution child s c
  reports : p.config.policy.reportsFailure c = true

theorem contributed_of_errorRecords {p : PipelineRun} {asked : List Exchange}
    {records : List ErrorRecord} (h : p.errorRecords.run.Follows asked (.ok records)) :
    ∀ r ∈ records, r.scope = .task ∨ r.scope = .step → ∃ c, Contributed p asked r c := by
  intro r hr hscope
  have hplugin (h : r.scope = .plugin) : False := by
    rw [h] at hscope
    exact absurd hscope (by decide)
  have hpipeline (h : r.scope = .pipeline) : False := by
    rw [h] at hscope
    exact absurd hscope (by decide)
  rcases PipelineRun.narrative_of_errorRecords h with rfl | ⟨pipeline, taskRuns, rfl, found⟩
  · rw [List.mem_singleton.mp hr] at hpipeline
    exact (hpipeline rfl).elim
  · rcases List.mem_append.mp hr with hr | hr
    · have hscopes : ∀ r ∈ pluginRecords p.config.pluginTask taskRuns, r.scope = .plugin :=
        forall_pluginRecords fun _ _ => rfl
      exact (hplugin (hscopes r hr)).elim
    · have htold := told_taskRecords p.config.policy p.name pipeline taskRuns
      rcases contributed htold r hr with hscope | ⟨⟨child, s, c⟩, hx, hcontribution⟩
      · exact (hpipeline hscope).elim
      · obtain ⟨hcondition, hreports⟩ := reports_of_blamed hx
        exact ⟨c, ⟨child, s, found _ (mem_of_blamed hx), hcondition, hcontribution⟩, hreports⟩

end Diagnosis

/-- The views of success agree under the default policy, on all conditions but those whose status
and reason do not. A task run that is told of in an explanation is shown as failed or cancelled,
unless it succeeded for a reason that is on no list. -/
theorem views_of_success {config : Config} (default : config.policy = {}) :
    (∀ kind name answer s c, answer.bind (Response.snapshot? kind) = .ok (some s) →
      s.condition? = some c → Tracker.Views ⟨config, kind, name⟩ answer c) ∧
    ∀ name asked records,
      (PipelineRun.errorRecords ⟨config, name⟩).run.Follows asked (.ok records) →
      ∀ r ∈ records, r.scope = .task ∨ r.scope = .step →
        ∃ c, Diagnosis.Contributed ⟨config, name⟩ asked r c ∧
          (config.policy.lifecycle (some c) = .failed ∨
            config.policy.lifecycle (some c) = .cancelled ∨ c.Unlisted ∧ c.reason ≠ "None") := by
  constructor
  · intro kind name answer s c found first
    exact Tracker.views ⟨config, kind, name⟩ default found first
  · intro name asked records h r hr hscope
    obtain ⟨c, hcontributed⟩ := Diagnosis.contributed_of_errorRecords h r hr hscope
    refine ⟨c, hcontributed, ?_⟩
    by_cases hfailed : config.policy.lifecycle (some c) = .failed
    · exact .inl hfailed
    · by_cases hcancelled : config.policy.lifecycle (some c) = .cancelled
      · exact .inr (.inl hcancelled)
      · have hiff := StatePolicy.reported_success_iff default c
        exact .inr (.inr (hiff.mp ⟨hcontributed.reports, hfailed, hcancelled⟩))

/-! A task run that has completed, for a reason that is on no list. -/

def completedRule (r : Request) : Except Failure Response :=
  match Table.get? r.path [
    ("apis/tekton.dev/v1beta1/namespaces/ns/pipelineruns/run",
      "\"childReferences\":[\x7b\"kind\":\"TaskRun\",\"name\":\"build\"\x7d]"),
    ("apis/tekton.dev/v1beta1/namespaces/ns/taskruns/build",
      "\"conditions\":[\x7b\"status\":\"True\",\"reason\":\"Completed\"\x7d]")] with
  | some status => .ok ⟨200, Diagnosis.statusDocument status⟩
  | none => .ok ⟨404, "not found"⟩

def completedTask : Tracker := ⟨Diagnosis.halfGone.config, .taskRun, "build"⟩

def completedCondition : Condition := ⟨.true, "Completed", "", none⟩

def completedRecord : ErrorRecord := .task "build" "task run finished with reason 'Completed'"

theorem completed_records : ((Surroundings.still completedRule).hold
    Diagnosis.halfGone.errorRecords.run ()).1 = .ok [completedRecord] := by decide +kernel

/-- The task run is shown as succeeded, has not succeeded, and is told of as a failure. -/
theorem completed_is_told :
    ((Surroundings.still completedRule).hold completedTask.lifecycle.run ()).1 = .ok .succeeded ∧
      ((Surroundings.still completedRule).hold completedTask.hasSucceeded.run ()).1 = .ok false ∧
      completedTask.config.policy.reportsFailure completedCondition = true ∧
      ((Surroundings.still completedRule).hold Diagnosis.halfGone.errorRecords.run ()).1 =
        .ok [completedRecord] :=
  ⟨by decide +kernel, by decide +kernel, by decide, completed_records⟩

def completedSnapshot : Snapshot where
  kind := "TaskRun"
  name := ""
  conditions := [completedCondition]
  children := []
  podReference := none
  steps := []
  results := []
  labels := []
  annotations := []
  raw := .object [("status", .object [("conditions",
    .array [.object [("reason", .text "Completed"), ("status", .text "True")]])])]

def completedAnswer : Except Failure Response :=
  completedRule (.get (completedTask.config.resourcePath .taskRun "build"))

/-- The record that is told of it is accounted for by its condition. -/
theorem views_of_success_completed :
    completedTask.config.policy = {} ∧
      completedAnswer.bind (Response.snapshot? .taskRun) = .ok (some completedSnapshot) ∧
      completedTask.Views completedAnswer completedCondition ∧
      ∃ asked, Diagnosis.halfGone.errorRecords.run.Follows asked (.ok [completedRecord]) ∧
        ∃ c, Diagnosis.Contributed Diagnosis.halfGone asked completedRecord c := by
  obtain ⟨hviews, hrecords⟩ := @views_of_success Diagnosis.halfGone.config rfl
  have hfound : completedAnswer.bind (Response.snapshot? .taskRun) =
      .ok (some completedSnapshot) := by decide +kernel
  obtain ⟨asked, hasked⟩ := (Surroundings.still completedRule).follows_hold
    Diagnosis.halfGone.errorRecords.run ()
  rw [completed_records] at hasked
  obtain ⟨c, hcontributed, -⟩ :=
    hrecords "run" asked _ hasked _ (List.mem_singleton_self _) (.inl rfl)
  exact ⟨rfl, hfound, hviews .taskRun "build" _ _ _ hfound rfl, asked, hasked, c, hcontributed⟩

end PipelineObserver
