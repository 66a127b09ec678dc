import PipelineObserver.Proofs.Surroundings
import PipelineObserver.Tracker.Update
/-!
Updates of a pipeline run that the server rejects because of a conflict: how often they are sent
again, and what they come to. The server is given by its answers, which may be any:
`retries_on_conflict`.
-/
namespace PipelineObserver.PipelineRun

def patchRequest (p : PipelineRun) (body : String) : Request :=
  .mergePatch (p.config.resourcePath .pipelineRun p.name) body

/-- What can be changed in a pipeline run. -/
inductive Update where
  | cancellation
  | labels (labels : Table String)
  | annotations (annotations : Table String)

namespace Update

def run (u : Update) (p : PipelineRun) : Client Json :=
  match u with
  | cancellation => p.cancel
  | labels l => p.updateLabels l
  | annotations a => p.updateAnnotations a

def document (u : Update) (p : PipelineRun) : Json :=
  match u with
  | cancellation => p.patch [] [("status", .text "PipelineRunCancelled")]
  | labels l => p.patch [("labels", .ofLabels l)] []
  | annotations a => p.patch [("annotations", .ofLabels a)] []

/-- What is said of a pipeline run that is not there. -/
def missing (u : Update) (p : PipelineRun) : String :=
  match u with
  | cancellation => "Pipeline run '" ++ p.name ++ "' can't be cancelled, because it doesn't exist"
  | labels _ => "Can't update labels on pipeline run '" ++ p.name ++ "', because it doesn't exist"
  | annotations _ =>
    "Can't update annotations on pipeline run '" ++ p.name ++ "', because it doesn't exist"

def request (u : Update) (p : PipelineRun) : Request := p.patchRequest (u.document p).render

end Update

/-! ### Answers -/

def isConflict : Except Failure Response → Bool
  | .ok r => r.status = 409
  | .error _ => false

/-- What an update comes to if this is the last answer. -/
def verdict (missing : String) : Except Failure Response → Except Failure Json
  | .error e => .error e
  | .ok r =>
    if r.status = 404 then .error (.notFound missing)
    else if 200 ≤ r.status ∧ r.status < 300 then
      match Json.parse? r.body with
      | some doc => .ok doc
      | none => .error (.parseError "")
    else .error (.apiError r.status r.body)

/-- What was asked of a server, and how many requests were sent to it. -/
structure Record where
  sent : Nat := 0
  asked : List Question := []

def Record.ask (w : Record) (q : Question) : Record := { w with asked := w.asked ++ [q] }

/-- A server that gives these answers, one to each request that is sent. -/
def server (answers : Nat → Except Failure Response) : Surroundings Record where
  answer
    | .send r, w => (answers w.sent, { w.ask (.send r) with sent := w.sent + 1 })
    | .openStream r, w => (.error (.connection ""), w.ask (.openStream r))
    | .readLine id, w => (.ok none, w.ask (.readLine id))
    | .sleep duration, w => ((), w.ask (.sleep duration))
    | .now, w => (0, w.ask .now)

/-- A request is sent, and after each of so many conflicts a pause is made and it is sent again. -/
def rounds (r : Request) (delay : Nat) : Nat → List Question
  | 0 => [.send r]
  | n + 1 => .send r :: .sleep delay :: rounds r delay n

/-! ### Attempts -/

variable (p : PipelineRun) (body missing : String) (answers : Nat → Except Failure Response)

theorem patched_eq (r : Response) : patched (.notFound missing) r =
    if isConflict (.ok r) then none else some (verdict missing (.ok r)) := by
  unfold patched verdict isConflict
  by_cases hmissing : r.status = 404
  · simp [hmissing]
  · by_cases hconflict : r.status = 409
    · simp [hconflict]
    · simp only [hmissing, hconflict, ↓reduceIte, decide_false, Bool.false_eq_true,
        Option.some.injEq]
      by_cases hsuccess : 200 ≤ r.status ∧ r.status < 300
      · have hchecked : r.checked = .ok r := by
          simp [Response.checked, Response.isSuccess, hsuccess]
        rw [hchecked, if_pos hsuccess]
        rfl
      · have hchecked : r.checked = .error (.apiError r.status r.body) := by
          simp only [Response.checked, Response.isSuccess, hsuccess, decide_false,
            Bool.false_eq_true, ↓reduceIte]
        rw [hchecked, if_neg hsuccess]
        rfl

theorem verdict_of_conflict {r : Response} (h : isConflict (.ok r) = true) :
    verdict missing (.ok r) = .error (.apiError r.status r.body) := by
  have hstatus : r.status = 409 := by simpa [isConflict] using h
  simp [verdict, hstatus]

theorem attemptPatch_run (failure : Failure) : (p.attemptPatch body failure).run =
    .ask (.send (p.patchRequest body)) fun answer =>
      .done (answer.map fun r => (r, patched failure r)) := by
  change Dialogue.ask _ _ = Dialogue.ask _ _
  congr 1
  funext answer
  cases answer <;> rfl

/-- An attempt is one request, and its answer decides how to go on. -/
theorem attemptPatch_bind (failure : Failure) {α : Type}
    (f : Response × Option (Except Failure Json) → Client α) :
    (p.attemptPatch body failure >>= f).run = .ask (.send (p.patchRequest body)) fun answer =>
      match answer with
      | .error e => .done (.error e)
      | .ok r => (f (r, patched failure r)).run := by
  change (p.attemptPatch body failure).run.bind (ExceptT.bindCont f) = _
  rw [attemptPatch_run, Dialogue.bind_ask]
  congr 1
  funext answer
  cases answer <;> rfl

theorem sendPatch_run_zero : (p.sendPatch body (.notFound missing) 0).run =
    .ask (.send (p.patchRequest body)) fun answer => .done (verdict missing answer) := by
  rw [sendPatch, attemptPatch_bind]
  congr 1
  funext answer
  cases answer with
  | error e => rfl
  | ok r =>
    dsimp only
    rw [patched_eq]
    cases hconflict : isConflict (.ok r) with
    | true =>
      rw [verdict_of_conflict missing hconflict]
      rfl
    | false => rfl

theorem sendPatch_run_succ (retries : Nat) :
    (p.sendPatch body (.notFound missing) (retries + 1)).run =
      .ask (.send (p.patchRequest body)) fun answer =>
        if isConflict answer then
          .ask (.sleep p.config.conflict.delay) fun _ =>
            (p.sendPatch body (.notFound missing) retries).run
        else .done (verdict missing answer) := by
  rw [sendPatch, attemptPatch_bind]
  congr 1
  funext answer
  cases answer with
  | error e => rfl
  | ok r =>
    dsimp only
    rw [patched_eq]
    cases hconflict : isConflict (.ok r) with
    | true => rfl
    | false => rfl

/-! ### The whole update -/

/-- One round: a patch, and a pause if it is sent again. -/
theorem hold_sendPatch_succ (retries : Nat) (w : Record) :
    (server answers).hold (p.sendPatch body (.notFound missing) (retries + 1)).run w =
      if isConflict (answers w.sent) then
        (server answers).hold (p.sendPatch body (.notFound missing) retries).run
          ⟨w.sent + 1, w.asked ++ [.send (p.patchRequest body), .sleep p.config.conflict.delay]⟩
      else (verdict missing (answers w.sent),
        ⟨w.sent + 1, w.asked ++ [.send (p.patchRequest body)]⟩) := by
  have hanswer : (server answers).answer (.send (p.patchRequest body)) w = (answers w.sent,
      ⟨w.sent + 1, w.asked ++ [.send (p.patchRequest body)]⟩) := rfl
  rw [sendPatch_run_succ, Surroundings.hold_ask, hanswer]
  cases isConflict (answers w.sent) with
  | false => rfl
  | true =>
    have hpause : (server answers).answer (.sleep p.config.conflict.delay)
        ⟨w.sent + 1, w.asked ++ [.send (p.patchRequest body)]⟩ = ((), ⟨w.sent + 1,
          w.asked ++ [.send (p.patchRequest body)] ++ [.sleep p.config.conflict.delay]⟩) := rfl
    rw [if_pos rfl, if_pos rfl, Surroundings.hold_ask, hpause, List.append_assoc]
    rfl

/-- Patches are sent until an answer is no conflict or there are no retries left. -/
theorem hold_sendPatch (retries : Nat) (w : Record) : ∃ n ≤ retries,
    (∀ i < n, isConflict (answers (w.sent + i)) = true) ∧
      (isConflict (answers (w.sent + n)) = true → n = retries) ∧
      (server answers).hold (p.sendPatch body (.notFound missing) retries).run w =
        (verdict missing (answers (w.sent + n)), ⟨w.sent + n + 1,
          w.asked ++ rounds (p.patchRequest body) p.config.conflict.delay n⟩) := by
  -- On the retries. The record is any, because a retry finds what was asked before it.
  induction retries generalizing w with
  | zero =>
    refine ⟨0, Nat.le_refl 0, fun i hi => absurd hi (Nat.not_lt_zero i), fun _ => rfl, ?_⟩
    rw [sendPatch_run_zero]
    rfl
  | succ retries ih =>
    rw [hold_sendPatch_succ]
    cases hconflict : isConflict (answers w.sent) with
    | false =>
      refine ⟨0, Nat.zero_le _, fun i hi => absurd hi (Nat.not_lt_zero i), ?_, rfl⟩
      intro hagain
      rw [Nat.add_zero, hconflict] at hagain
      cases hagain
    | true =>
      obtain ⟨n, hn, hbefore, hlast, hhold⟩ := ih ⟨w.sent + 1,
        w.asked ++ [.send (p.patchRequest body), .sleep p.config.conflict.delay]⟩
      have hshift (i : Nat) : w.sent + (i + 1) = w.sent + 1 + i := by omega
      refine ⟨n + 1, Nat.succ_le_succ hn, ?_, ?_, ?_⟩
      · intro i hi
        cases i with
        | zero => exact hconflict
        | succ i =>
          rw [hshift]
          exact hbefore i (Nat.lt_of_succ_lt_succ hi)
      · intro hagain
        rw [hshift] at hagain
        rw [hlast hagain]
      · rw [if_pos rfl, hhold, hshift n, List.append_assoc]
        rfl

theorem run_eq (u : Update) : u.run p = p.sendPatch (u.document p).render (.notFound (u.missing p))
    p.config.conflict.maxRetries := by
  cases u <;> rfl

/-- An update is sent again after each conflict, at most as often as configured, after a pause and
otherwise unchanged, and comes to what its last answer says. -/
theorem retries_on_conflict (u : Update) : ∃ n,
    (∀ k, (∀ i < k, isConflict (answers i) = true) → isConflict (answers k) = false →
      n = min k p.config.conflict.maxRetries) ∧
    ((∀ i, isConflict (answers i) = true) → n = p.config.conflict.maxRetries) ∧
    (server answers).hold (u.run p).run {} = (verdict (u.missing p) (answers n),
      { sent := n + 1, asked := rounds (u.request p) p.config.conflict.delay n }) := by
  obtain ⟨n, hn, hbefore, hlast, hhold⟩ := hold_sendPatch p (u.document p).render (u.missing p)
    answers p.config.conflict.maxRetries {}
  simp only [Nat.zero_add, List.nil_append] at hbefore hlast hhold
  refine ⟨n, ?_, fun hall => hlast (hall n), ?_⟩
  · intro k hleading hstop
    have hle : n ≤ k := by
      -- The first answer that is no conflict is never passed.
      refine Nat.le_of_not_lt fun hlt => ?_
      rw [hbefore k hlt] at hstop
      cases hstop
    rcases Nat.lt_or_eq_of_le hle with hlt | rfl
    · have hspent := hlast (hleading n hlt)
      omega
    · exact (Nat.min_eq_left hn).symm
  · rw [run_eq]
    exact hhold

/-! A pipeline run that changes twice meanwhile and is gone then, cancelled with enough retries to
notice it and with too few. -/

def contested (retries : Nat) : PipelineRun where
  config := {
    apiUrl := "https://api.example.test"
    «namespace» := "ns"
    conflict := { maxRetries := retries, delay := 50 } }
  name := "run"

def changedTwice (i : Nat) : Except Failure Response :=
  if i < 2 then .ok ⟨409, "changed"⟩ else .ok ⟨404, ""⟩

theorem retries_on_conflict_contested :
    (server changedTwice).hold (Update.cancellation.run (contested 3)).run {} =
      (.error (.notFound "Pipeline run 'run' can't be cancelled, because it doesn't exist"),
        { sent := 3, asked := rounds (Update.cancellation.request (contested 3)) 50 2 }) ∧
    (server changedTwice).hold (Update.cancellation.run (contested 1)).run {} =
      (.error (.apiError 409 "changed"),
        { sent := 2, asked := rounds (Update.cancellation.request (contested 1)) 50 1 }) := by
  have hleading : ∀ i < 2, isConflict (changedTwice i) = true := by decide
  obtain ⟨n, hn, -, hhold⟩ := retries_on_conflict (contested 3) changedTwice .cancellation
  obtain ⟨n', hn', -, hhold'⟩ := retries_on_conflict (contested 1) changedTwice .cancellation
  obtain rfl : n = 2 := hn 2 hleading rfl
  obtain rfl : n' = 1 := hn' 2 hleading rfl
  exact ⟨hhold, hhold'⟩

end PipelineObserver.PipelineRun
