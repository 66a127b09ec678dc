import PipelineObserver.Proofs.Diagnosis.Completeness
import PipelineObserver.Proofs.Watch.Channel
/-!
What the records of an explanation say of the failures that they stand for. No record of a task or
of the pipeline run is empty, and one of a step is only if the step left an empty result:
`silent_only_about_empty_result`.
-/
namespace PipelineObserver

/-- A client that comes to something has come to something before. -/
theorem Client.follows_bind {α β : Type} {x : Client α} {f : α → Client β} {asked : List Exchange}
    {b : β} (h : (x >>= f).run.Follows asked (.ok b)) : ∃ before after a,
      asked = before ++ after ∧ x.run.Follows before (.ok a) ∧ (f a).run.Follows after (.ok b) := by
  change (x.run.bind (ExceptT.bindCont f)).Follows asked (.ok b) at h
  obtain ⟨before, after, result, rfl, hx, hf⟩ := Dialogue.follows_bind_iff.mp h
  cases result with
  | error e =>
    obtain ⟨-, hfailed⟩ := Dialogue.follows_done_iff.mp hf
    cases hfailed
  | ok a => exact ⟨before, after, a, rfl, hx, hf⟩

theorem Client.follows_pure {α : Type} {a b : α} {asked : List Exchange}
    (h : (pure a : Client α).run.Follows asked (.ok b)) : b = a := by
  obtain ⟨-, hresult⟩ := Dialogue.follows_done_iff.mp h
  exact Except.ok.inj hresult

/-- A snapshot of the resource was found in the course of a transcript. -/
def Tracker.Found (t : Tracker) (asked : List Exchange) (s : Snapshot) : Prop :=
  ∃ answer : Except Failure Response, t.lookedUp answer ∈ asked ∧
    answer.bind (Response.snapshot? t.kind) = .ok (some s)

theorem Tracker.found_of_snapshot {t : Tracker} {asked : List Exchange} {s : Snapshot}
    (h : t.snapshot.run.Follows asked (.ok (some s))) : t.Found asked s := by
  rw [snapshot_run] at h
  obtain ⟨answer, rest, rfl, hrest⟩ := Dialogue.follows_ask_iff.mp h
  obtain ⟨-, hfound⟩ := Dialogue.follows_done_iff.mp hrest
  exact ⟨answer, List.mem_cons_self, hfound.symm⟩

theorem Tracker.Found.mono {t : Tracker} {asked more : List Exchange} {s : Snapshot}
    (h : t.Found asked s) (hsub : asked ⊆ more) : t.Found more s := by
  obtain ⟨answer, hmem, hfound⟩ := h
  exact ⟨answer, hsub hmem, hfound⟩

namespace PipelineRun

variable {p : PipelineRun} {asked : List Exchange}

theorem found_of_existing {children : List ChildReference}
    {taskRuns : List (ChildReference × Snapshot)}
    (h : (p.existing children).run.Follows asked (.ok taskRuns)) :
    ∀ x ∈ taskRuns, (p.taskRun x.1).Found asked x.2 := by
  induction children generalizing asked taskRuns with
  | nil =>
    rw [Client.follows_pure h]
    exact nofun
  | cons child rest ih =>
    obtain ⟨first, others, found, rfl, hfound, hothers⟩ := Client.follows_bind h
    obtain ⟨second, last, more, rfl, hmore, hlast⟩ := Client.follows_bind hothers
    have hrest : ∀ x ∈ more, (p.taskRun x.1).Found (first ++ (second ++ last)) x.2 :=
      fun x hx => (ih hmore x hx).mono fun e he =>
        List.mem_append_right _ (List.mem_append_left _ he)
    have hresult := Client.follows_pure hlast
    cases found with
    | none => rwa [hresult]
    | some s =>
      rw [hresult]
      have hchild : (p.taskRun child).Found (first ++ (second ++ last)) s :=
        (Tracker.found_of_snapshot hfound).mono (List.subset_append_left ..)
      exact List.forall_mem_cons.mpr ⟨hchild, hrest⟩

/-- An explanation is that of a pipeline run that is gone, or it is made from task runs that were
found. -/
theorem narrative_of_errorRecords {records : List ErrorRecord}
    (h : p.errorRecords.run.Follows asked (.ok records)) :
    records = Diagnosis.missing p.name ∨ ∃ pipeline taskRuns,
      records = Diagnosis.narrative p.config.policy p.config.pluginTask p.name pipeline taskRuns ∧
      ∀ x ∈ taskRuns, (p.taskRun x.1).Found asked x.2 := by
  obtain ⟨first, others, found, rfl, -, hothers⟩ := Client.follows_bind h
  cases found with
  | none => exact .inl (Client.follows_pure hothers)
  | some pipeline =>
    obtain ⟨second, last, taskRuns, rfl, htaskRuns, hlast⟩ := Client.follows_bind hothers
    obtain ⟨listing, lookUps, children, rfl, -, hexisting⟩ := Client.follows_bind htaskRuns
    refine .inr ⟨pipeline, taskRuns, Client.follows_pure hlast, fun x hx => ?_⟩
    refine (found_of_existing hexisting x hx).mono fun e he => ?_
    exact List.mem_append_right _ (List.mem_append_left _ (List.mem_append_right _ he))

end PipelineRun

namespace Diagnosis

/-- What a failed step shows: the result that it left, or else how it ended. -/
inductive Shows (ending : Termination) : String → Prop
  | result {result : String} (h : ending.taskResult = .ok (some result)) : Shows ending result
  | ending (h : ∀ result, ending.taskResult ≠ .ok (some result)) : Shows ending
      ("failed with exit code " ++ toString ending.exitCode ++ " and reason '" ++ ending.reason ++
        "'")

theorem Shows.eq_empty_iff {ending : Termination} {detail : String} (h : Shows ending detail) :
    detail = "" ↔ ending.taskResult = .ok (some "") := by
  cases h with
  | @result result h =>
    constructor
    · rintro rfl
      exact h
    · intro hempty
      rw [h] at hempty
      cases hempty
      rfl
  | ending h =>
    refine ⟨fun hempty => absurd hempty ?_, fun hempty => absurd hempty (h "")⟩
    simp only [String.append_eq_empty_iff]
    exact fun hall => absurd hall.2 (by decide)

theorem stepDetail_shows {step : Step} {ending : Termination}
    (h : step.terminated = some ending) : Shows ending (stepDetail step) := by
  unfold stepDetail
  rw [h]
  dsimp only
  split
  case h_1 result hresult => exact .result hresult
  case h_2 hnone => exact .ending fun result hresult => by rw [hnone] at hresult; cases hresult
  case h_3 e herror => exact .ending fun result hresult => by rw [herror] at hresult; cases hresult

/-! ### Records of every kind -/

section Records

variable {P : ErrorRecord → Prop} {taskRuns : List (ChildReference × Snapshot)}

theorem forall_pluginRecords (plugin : ∀ name detail, P (.plugin name detail))
    {pluginTask : String} : ∀ r ∈ pluginRecords pluginTask taskRuns, P r := by
  intro r hr
  unfold pluginRecords pluginErrors at hr
  split at hr
  · split at hr
    · obtain ⟨⟨name, error⟩, -, rfl⟩ := List.mem_map.mp hr
      cases error <;> exact plugin name _
    · exact absurd hr List.not_mem_nil
  · exact absurd hr List.not_mem_nil

theorem forall_share {child : ChildReference} {s : Snapshot} {c : Condition}
    (task : ∀ name detail, detail ≠ "" → P (.task name detail))
    (step : ∀ step ∈ brokenSteps s, P (.step child.taskName step.name (stepDetail step))) :
    ∀ r ∈ share child s c, P r := by
  intro r hr
  unfold share at hr
  split at hr
  · by_cases hmessage : c.message = ""
    · rw [if_pos hmessage] at hr
      exact absurd hr List.not_mem_nil
    · rw [if_neg hmessage] at hr
      rw [List.mem_singleton.mp hr]
      exact task _ _ hmessage
  · obtain ⟨broken, hbroken, rfl⟩ := List.mem_map.mp hr
    exact step broken hbroken

theorem mem_of_blamed {policy : StatePolicy} {x : ChildReference × Snapshot × Condition}
    (h : x ∈ blamed policy taskRuns) : (x.1, x.2.1) ∈ taskRuns := by
  obtain ⟨y, hy, hx⟩ := List.mem_filterMap.mp h
  obtain ⟨c, -, rfl⟩ := Option.map_eq_some_iff.mp hx
  exact hy

/-- What is told beside the errors of plugins tells something of a task or of the pipeline run, or
tells of a broken step. -/
theorem forall_told (task : ∀ name detail, detail ≠ "" → P (.task name detail))
    (pipelineRun : ∀ name detail, detail ≠ "" → P (.pipeline name detail))
    (step : ∀ x ∈ taskRuns, ∀ step ∈ brokenSteps x.2,
      P (.step x.1.taskName step.name (stepDetail step)))
    {policy : StatePolicy} {name : String} {pipeline : Snapshot} {told : List ErrorRecord}
    (h : Told policy name pipeline taskRuns told) : ∀ r ∈ told, P r := by
  cases h with
  | tasks =>
    intro r hr
    obtain ⟨x, hx, hr⟩ := List.mem_flatMap.mp hr
    exact forall_share task (step _ (mem_of_blamed hx)) r hr
  | message _ c _ hmessage => exact List.forall_mem_singleton.mpr (pipelineRun name _ hmessage)
  | reasons =>
    intro r hr
    obtain ⟨x, -, rfl⟩ := List.mem_map.mp hr
    refine task _ _ ?_
    simp [String.append_eq_empty_iff]
  | nothing => exact List.forall_mem_singleton.mpr (pipelineRun name _ (by decide))

end Records

/-! ### What the records say -/

/-- A step that has failed, in a snapshot of the task run that was found. -/
structure FailedStep (p : PipelineRun) (asked : List Exchange) (child : ChildReference)
    (step : Step) (ending : Termination) : Prop where
  found : ∃ s, (p.taskRun child).Found asked s ∧ step ∈ s.steps
  terminated : step.terminated = some ending
  failed : ending.exitCode ≠ 0

/-- What the records say. -/
inductive Says (p : PipelineRun) (asked : List Exchange) : ErrorRecord → Prop
  | plugin (name detail : String) : Says p asked (.plugin name detail)
  | task (name : String) {detail : String} (h : detail ≠ "") : Says p asked (.task name detail)
  | pipeline (name : String) {detail : String} (h : detail ≠ "") :
      Says p asked (.pipeline name detail)
  | step {child : ChildReference} {step : Step} {ending : Termination} {detail : String}
      (h : FailedStep p asked child step ending) (shown : Shows ending detail) :
      Says p asked (.step child.taskName step.name detail)

section Narrative

variable {p : PipelineRun} {asked : List Exchange}

theorem says_of_broken {child : ChildReference} {s : Snapshot}
    (found : (p.taskRun child).Found asked s) : ∀ step ∈ brokenSteps s,
      Says p asked (.step child.taskName step.name (stepDetail step)) := by
  intro step hstep
  obtain ⟨hmem, hbroken⟩ := List.mem_filter.mp hstep
  cases hending : step.terminated with
  | none =>
    rw [hending] at hbroken
    cases hbroken
  | some ending =>
    rw [hending] at hbroken
    have hfailed : ending.exitCode ≠ 0 := by simpa using hbroken
    exact .step ⟨⟨s, found, hmem⟩, hending, hfailed⟩ (stepDetail_shows hending)

theorem says_of_errorRecords {records : List ErrorRecord}
    (h : p.errorRecords.run.Follows asked (.ok records)) : ∀ r ∈ records, Says p asked r := by
  rcases PipelineRun.narrative_of_errorRecords h with rfl | ⟨pipeline, taskRuns, rfl, found⟩
  · exact List.forall_mem_singleton.mpr (.pipeline p.name (by decide))
  · have htold := told_taskRecords p.config.policy p.name pipeline taskRuns
    have hsays := forall_told (fun name _ h => .task name h) (fun name _ h => .pipeline name h)
      (fun x hx => says_of_broken (found x hx)) htold
    exact List.forall_mem_append.mpr ⟨forall_pluginRecords .plugin, hsays⟩

end Narrative

/-- Whatever the policy and whatever is answered: a record of a task or of the pipeline run is never
empty, and one of a step stands for a step that has failed and shows the result that it left, or
else its exit code and its reason. So a record that is not of a plugin is empty just if it stands
for a step whose result is empty. -/
theorem silent_only_about_empty_result {p : PipelineRun} {asked : List Exchange}
    {records : List ErrorRecord} (h : p.errorRecords.run.Follows asked (.ok records)) :
    ∀ r ∈ records, r.scope ≠ .plugin →
      (r.scope ≠ .step ∧ r.detail ≠ "") ∨
      ∃ child step ending, FailedStep p asked child step ending ∧
        r = .step child.taskName step.name r.detail ∧ Shows ending r.detail ∧
        (r.detail = "" ↔ ending.taskResult = .ok (some "")) := by
  intro r hr hscope
  cases says_of_errorRecords h r hr with
  | plugin => exact absurd rfl hscope
  | task _ hdetail => exact .inl ⟨nofun, hdetail⟩
  | pipeline _ hdetail => exact .inl ⟨nofun, hdetail⟩
  | step hfailed shown => exact .inr ⟨_, _, _, hfailed, rfl, shown, shown.eq_empty_iff⟩

/-! A task run whose one step has failed and left a message. -/

/-- The server of a failed step that left this message, as it stands in a document. -/
def brokenRule (message : String) (r : Request) : Except Failure Response :=
  match Table.get? r.path [
    ("apis/tekton.dev/v1beta1/namespaces/ns/pipelineruns/run",
      "\"childReferences\":[\x7b\"kind\":\"TaskRun\",\"name\":\"build\"\x7d]"),
    ("apis/tekton.dev/v1beta1/namespaces/ns/taskruns/build",
      "\"conditions\":[\x7b\"status\":\"False\"\x7d],\"steps\":[\x7b\"name\":\"compile\"," ++
        "\"terminated\":\x7b\"exitCode\":2,\"reason\":\"Error\",\"message\":" ++ message ++
        "\x7d\x7d]")] with
  | some status => .ok ⟨200, statusDocument status⟩
  | none => .ok ⟨404, "not found"⟩

theorem follows_broken (message detail : String)
    (h : ((Surroundings.still (brokenRule message)).hold halfGone.errorRecords.run ()).1 =
      .ok [.step "build" "compile" detail]) :
    ∃ asked, halfGone.errorRecords.run.Follows asked (.ok [.step "build" "compile" detail]) := by
  obtain ⟨asked, hasked⟩ :=
    (Surroundings.still (brokenRule message)).follows_hold halfGone.errorRecords.run ()
  exact ⟨asked, h ▸ hasked⟩

/-- The step left an entry for its result, but no text in it. -/
theorem empty_result_is_silent : ¬ ∀ (p : PipelineRun) (asked : List Exchange)
    (records : List ErrorRecord), p.errorRecords.run.Follows asked (.ok records) →
      ∀ r ∈ records, r.scope ≠ .plugin → r.detail ≠ "" := by
  intro h
  obtain ⟨asked, hasked⟩ :=
    follows_broken "\"[\x7b\\\"key\\\":\\\"task_result\\\"\x7d]\"" "" (by decide +kernel)
  exact h halfGone asked _ hasked _ (List.mem_singleton_self _) (by decide) rfl

/-- A message that is no list of entries leaves no result, and so the exit code is shown. -/
theorem silent_only_about_empty_result_plain : ∃ asked,
    halfGone.errorRecords.run.Follows asked
      (.ok [.step "build" "compile" "failed with exit code 2 and reason 'Error'"]) ∧
    ∃ child step ending, FailedStep halfGone asked child step ending ∧
      Shows ending "failed with exit code 2 and reason 'Error'" ∧
      ending.taskResult ≠ .ok (some "") := by
  obtain ⟨asked, hasked⟩ := follows_broken "\"segmentation fault\""
    "failed with exit code 2 and reason 'Error'" (by decide +kernel)
  rcases silent_only_about_empty_result hasked _ (List.mem_singleton_self _) (by decide) with
    ⟨hscope, -⟩ | ⟨child, step, ending, hfailed, -, shown, hempty⟩
  · exact absurd rfl hscope
  · refine ⟨asked, hasked, child, step, ending, hfailed, shown, fun h => ?_⟩
    exact absurd (hempty.mpr h) (by decide)

end Diagnosis

end PipelineObserver
