import PipelineObserver.Proofs.Tracker.Agreement
import PipelineObserver.Proofs.Tracker.Retries
/-!
The search for a task run in a state, whatever is answered to each look-up. It looks no further than
the first task run that decides it: `search_ends_with_first_decision`.
-/
namespace PipelineObserver.PipelineRun

/-! ### What an answer does to a search -/

/-- The search goes on after this answer to the look-up of a task run. -/
inductive Passes (holds : Condition → Bool) : Except Failure Response → Prop
  | gone {r : Response} (h : r.status = 404) : Passes holds (.ok r)
  | unobserved {answer : Except Failure Response} {s : Snapshot}
      (shown : answer.bind (Response.snapshot? .taskRun) = .ok (some s)) (h : s.conditions = []) :
      Passes holds answer
  | other {answer : Except Failure Response} {s : Snapshot} {c : Condition}
      (shown : answer.bind (Response.snapshot? .taskRun) = .ok (some s))
      (first : s.condition? = some c) (h : holds c = false) : Passes holds answer

/-- The search ends with this answer, and comes to this. -/
inductive Decides (holds : Condition → Bool) (answer : Except Failure Response) :
    Except Failure Bool → Prop
  | matched {s : Snapshot} {c : Condition}
      (shown : answer.bind (Response.snapshot? .taskRun) = .ok (some s))
      (first : s.condition? = some c) (h : holds c = true) : Decides holds answer (.ok true)
  | failed {e : Failure} (h : answer.bind (Response.snapshot? .taskRun) = .error e) :
      Decides holds answer (.error e)

/-- A search among so many task runs comes to this after so many look-ups. -/
inductive Scan (holds : Condition → Bool) (answers : Nat → Except Failure Response) (count : Nat) :
    Except Failure Bool → Nat → Prop
  | exhausted (passed : ∀ i < count, Passes holds (answers i)) :
      Scan holds answers count (.ok false) count
  | decided {n : Nat} {result : Except Failure Bool} (here : n < count)
      (passed : ∀ i < n, Passes holds (answers i)) (decides : Decides holds (answers n) result) :
      Scan holds answers count result (n + 1)

/-- What a search comes to that begins with a look-up of the pipeline run, and how many of its task
runs it looks up. -/
inductive Verdict (holds : Condition → Bool) (answers : Nat → Except Failure Response) :
    Except Failure Bool → Nat → Prop
  | failed {e : Failure} (h : (answers 0).bind (Response.snapshot? .pipelineRun) = .error e) :
      Verdict holds answers (.error e) 0
  | gone {r : Response} (h : answers 0 = .ok r) (missing : r.status = 404) :
      Verdict holds answers (.ok false) 0
  | listed {s : Snapshot} {result : Except Failure Bool} {n : Nat}
      (h : (answers 0).bind (Response.snapshot? .pipelineRun) = .ok (some s))
      (scan : Scan holds (fun i => answers (i + 1)) s.taskRuns.length result n) :
      Verdict holds answers result n

variable {holds : Condition → Bool} {answer : Except Failure Response}

theorem passes_iff : Passes holds answer ↔
    ∃ found, answer.bind (Response.snapshot? .taskRun) = .ok found ∧
      (found.bind Snapshot.condition?).any holds = false := by
  constructor
  · intro h
    cases h with
    | @gone r h => exact ⟨none, r.snapshot?_eq_none_iff.mpr h, rfl⟩
    | @unobserved _ s shown h =>
      have hfirst : s.condition? = none := by rw [Snapshot.condition?, h, List.head?_nil]
      exact ⟨some s, shown, by rw [Option.bind_some, hfirst, Option.any_none]⟩
    | @other _ s c shown first h =>
      exact ⟨some s, shown, by rw [Option.bind_some, first, Option.any_some, h]⟩
  · rintro ⟨found, shown, hnone⟩
    cases found with
    | none =>
      obtain ⟨r, rfl, hmissing⟩ := missing_of_lookedUp shown
      exact .gone hmissing
    | some s =>
      rw [Option.bind_some] at hnone
      cases hfirst : s.condition? with
      | none => exact .unobserved shown (List.head?_eq_none_iff.mp hfirst)
      | some c => exact .other shown hfirst (by rwa [hfirst, Option.any_some] at hnone)

theorem passes_or_decides (holds : Condition → Bool) (answer : Except Failure Response) :
    Passes holds answer ∨ ∃ result, Decides holds answer result := by
  cases hshown : answer.bind (Response.snapshot? .taskRun) with
  | error e => exact .inr ⟨_, .failed hshown⟩
  | ok found =>
    cases hany : (found.bind Snapshot.condition?).any holds with
    | false => exact .inl (passes_iff.mpr ⟨found, hshown, hany⟩)
    | true =>
      rcases found with _ | s
      · cases hany
      · rw [Option.bind_some] at hany
        cases hfirst : s.condition? with
        | none =>
          rw [hfirst] at hany
          cases hany
        | some c =>
          rw [hfirst, Option.any_some] at hany
          exact .inr ⟨_, .matched hshown hfirst hany⟩

theorem Decides.not_passes {result : Except Failure Bool} (h : Decides holds answer result) :
    ¬ Passes holds answer := by
  rw [passes_iff]
  rintro ⟨found, shown, hnone⟩
  cases h with
  | @matched s c shown' first h =>
    cases shown'.symm.trans shown
    rw [Option.bind_some, first, Option.any_some, h] at hnone
    cases hnone
  | failed h => cases h.symm.trans shown

/-! ### Looking up one task run after the other -/

variable {answers others : Nat → Except Failure Response}

/-- What has been asked once a resource is looked up. -/
def Record.lookUp (w : Record) (t : Tracker) : Record :=
  ⟨w.sent + 1, w.asked ++ [.send (FinishWait.lookUp t)]⟩

/-- The look-ups of task runs, one after the other. -/
def lookUps (p : PipelineRun) (children : List ChildReference) : List Question :=
  children.map fun child => .send (FinishWait.lookUp (p.taskRun child))

theorem hold_snapshot (t : Tracker) (w : Record) : (server answers).hold t.snapshot.run w =
    ((answers w.sent).bind (Response.snapshot? t.kind), w.lookUp t) := by
  rw [Tracker.snapshot_run]
  rfl

/-- What follows from the answer to the first of the look-ups. -/
theorem hold_anyInState_cons (p : PipelineRun) (child : ChildReference)
    (rest : List ChildReference) (w : Record) :
    (server answers).hold (p.anyInState holds (child :: rest)).run w =
      match (answers w.sent).bind (Response.snapshot? .taskRun) with
      | .error e => (.error e, w.lookUp (p.taskRun child))
      | .ok found =>
        if (found.bind Snapshot.condition?).any holds then (.ok true, w.lookUp (p.taskRun child))
        else (server answers).hold (p.anyInState holds rest).run (w.lookUp (p.taskRun child)) := by
  have hsnapshot : (server answers).hold (p.taskRun child).snapshot.run w =
      ((answers w.sent).bind (Response.snapshot? .taskRun), w.lookUp (p.taskRun child)) :=
    hold_snapshot _ w
  rw [anyInState, Tracker.condition?, bind_assoc]
  cases hfound : (answers w.sent).bind (Response.snapshot? .taskRun) with
  | error e =>
    rw [hfound] at hsnapshot
    exact Surroundings.hold_run_bind_failed _ hsnapshot
  | ok found =>
    rw [hfound] at hsnapshot
    rw [Surroundings.hold_run_bind _ hsnapshot, pure_bind]
    dsimp only
    split
    · rfl
    · rfl

theorem hold_of_passes {p : PipelineRun} {child : ChildReference} {w : Record}
    (h : Passes holds (answers w.sent)) (rest : List ChildReference) :
    (server answers).hold (p.anyInState holds (child :: rest)).run w =
      (server answers).hold (p.anyInState holds rest).run (w.lookUp (p.taskRun child)) := by
  obtain ⟨found, shown, hnone⟩ := passes_iff.mp h
  rw [hold_anyInState_cons, shown]
  dsimp only
  rw [hnone, if_neg Bool.false_ne_true]

theorem hold_of_decides {p : PipelineRun} {child : ChildReference} {w : Record}
    {result : Except Failure Bool} (h : Decides holds (answers w.sent) result)
    (rest : List ChildReference) :
    (server answers).hold (p.anyInState holds (child :: rest)).run w =
      (result, w.lookUp (p.taskRun child)) := by
  rw [hold_anyInState_cons]
  cases h with
  | @matched s c shown first h =>
    rw [shown]
    dsimp only
    rw [Option.bind_some, first, Option.any_some, if_pos h]
  | failed h => rw [h]

theorem Scan.cons {count n : Nat} {result : Except Failure Bool} (first : Passes holds (answers 0))
    (h : Scan holds (fun i => answers (i + 1)) count result n) :
    Scan holds answers (count + 1) result (n + 1) := by
  have hshift {m : Nat} (passed : ∀ i < m, Passes holds (answers (i + 1))) :
      ∀ i < m + 1, Passes holds (answers i) := by
    intro i hi
    cases i with
    | zero => exact first
    | succ i => exact passed i (Nat.lt_of_succ_lt_succ hi)
  cases h with
  | exhausted passed => exact .exhausted (hshift passed)
  | decided here passed decides => exact .decided (Nat.succ_lt_succ here) (hshift passed) decides

/-- Task runs are looked up until one of them decides the search. -/
theorem hold_anyInState (p : PipelineRun) (holds : Condition → Bool)
    (answers : Nat → Except Failure Response) (children : List ChildReference) (w : Record) :
    ∃ result n, Scan holds (fun i => answers (w.sent + i)) children.length result n ∧
      (server answers).hold (p.anyInState holds children).run w =
        (result, ⟨w.sent + n, w.asked ++ p.lookUps (children.take n)⟩) := by
  -- On the task runs. The record is any, because each finds what was asked before it.
  induction children generalizing w with
  | nil =>
    refine ⟨.ok false, 0, .exhausted fun i hi => absurd hi (Nat.not_lt_zero i), ?_⟩
    rw [List.take_nil, lookUps, List.map_nil, List.append_nil]
    rfl
  | cons child rest ih =>
    rcases passes_or_decides holds (answers w.sent) with hpasses | ⟨result, hdecides⟩
    · obtain ⟨result, n, hscan, hhold⟩ := ih (w.lookUp (p.taskRun child))
      have hshift (i : Nat) : w.sent + 1 + i = w.sent + (i + 1) := by omega
      simp only [Record.lookUp, hshift] at hscan hhold
      refine ⟨result, n + 1, .cons hpasses hscan, ?_⟩
      rw [hold_of_passes hpasses, Record.lookUp, hhold, List.append_assoc]
      rfl
    · refine ⟨result, 1, .decided (Nat.succ_pos _) (fun i hi => absurd hi (Nat.not_lt_zero i))
        hdecides, ?_⟩
      exact hold_of_decides hdecides rest

theorem Decides.unique {result result' : Except Failure Bool} (h : Decides holds answer result)
    (h' : Decides holds answer result') : result = result' := by
  cases h with
  | matched shown =>
    cases h' with
    | matched => rfl
    | failed failed => cases shown.symm.trans failed
  | failed failed =>
    cases h' with
    | matched shown => cases shown.symm.trans failed
    | failed failed' =>
      cases failed.symm.trans failed'
      rfl

theorem Scan.unique {count n n' : Nat} {result result' : Except Failure Bool}
    (h : Scan holds answers count result n) (h' : Scan holds answers count result' n') :
    result = result' ∧ n = n' := by
  cases h with
  | exhausted passed =>
    cases h' with
    | exhausted => exact ⟨rfl, rfl⟩
    | @decided m _ here _ decides => exact absurd (passed m here) decides.not_passes
  | @decided m _ here passed decides =>
    cases h' with
    | exhausted passed' => exact absurd (passed' m here) decides.not_passes
    | @decided m' _ here' passed' decides' =>
      -- What decides the one search is not passed over in the other.
      have hle : m ≤ m' := Nat.le_of_not_lt fun hlt => decides'.not_passes (passed m' hlt)
      have hge : m' ≤ m := Nat.le_of_not_lt fun hlt => decides.not_passes (passed' m hlt)
      obtain rfl : m = m' := Nat.le_antisymm hle hge
      exact ⟨decides.unique decides', rfl⟩

theorem Scan.congr {count n : Nat} {result : Except Failure Bool}
    (h : Scan holds answers count result n) (same : ∀ i < n, others i = answers i) :
    Scan holds others count result n := by
  cases h with
  | exhausted passed => exact .exhausted fun i hi => by rw [same i hi]; exact passed i hi
  | @decided m _ here passed decides =>
    refine .decided here (fun i hi => ?_) ?_
    · rw [same i (Nat.lt_succ_of_lt hi)]
      exact passed i hi
    · rw [same m (Nat.lt_succ_self m)]
      exact decides

/-! ### The whole search -/

/-- The task runs that an answer lists. -/
def listedIn (answer : Except Failure Response) : List ChildReference :=
  match answer.bind (Response.snapshot? .pipelineRun) with
  | .ok (some s) => s.taskRuns
  | _ => []

/-- What has been asked once so many task runs were looked up. -/
def searched (p : PipelineRun) (answers : Nat → Except Failure Response) (n : Nat) : Record where
  sent := n + 1
  asked := .send (FinishWait.lookUp p.tracker) :: p.lookUps ((listedIn (answers 0)).take n)

theorem hold_anyTaskInState (p : PipelineRun) (holds : Condition → Bool)
    (answers : Nat → Except Failure Response) : ∃ result n, Verdict holds answers result n ∧
      (server answers).hold (p.anyTaskInState holds).run {} = (result, p.searched answers n) := by
  have hsnapshot : (server answers).hold p.tracker.snapshot.run {} =
      ((answers 0).bind (Response.snapshot? .pipelineRun), Record.lookUp {} p.tracker) :=
    hold_snapshot _ _
  rw [anyTaskInState, childTaskRuns, bind_assoc]
  cases hlisted : (answers 0).bind (Response.snapshot? .pipelineRun) with
  | error e =>
    rw [hlisted] at hsnapshot
    refine ⟨_, 0, .failed hlisted, ?_⟩
    rw [Surroundings.hold_run_bind_failed _ hsnapshot]
    rfl
  | ok found =>
    rw [hlisted] at hsnapshot
    rw [Surroundings.hold_run_bind _ hsnapshot, pure_bind]
    cases found with
    | none =>
      obtain ⟨r, hr, hmissing⟩ := missing_of_lookedUp hlisted
      exact ⟨_, 0, .gone hr hmissing, rfl⟩
    | some s =>
      obtain ⟨result, n, hscan, hhold⟩ :=
        hold_anyInState p holds answers s.taskRuns (Record.lookUp {} p.tracker)
      have hchildren : listedIn (answers 0) = s.taskRuns := by rw [listedIn, hlisted]
      have hshift (i : Nat) : 1 + i = i + 1 := Nat.add_comm 1 i
      simp only [Record.lookUp, Nat.zero_add, hshift] at hscan hhold
      refine ⟨result, n, .listed hlisted hscan, ?_⟩
      rw [searched, hchildren]
      exact hhold

theorem Verdict.unique {n n' : Nat} {result result' : Except Failure Bool}
    (h : Verdict holds answers result n) (h' : Verdict holds answers result' n') :
    result = result' ∧ n = n' := by
  have hgone {r : Response} (hr : answers 0 = .ok r) (missing : r.status = 404) :
      (answers 0).bind (Response.snapshot? .pipelineRun) = .ok none := by
    rw [hr]
    exact r.snapshot?_eq_none_iff.mpr missing
  cases h with
  | failed failed =>
    cases h' with
    | failed failed' =>
      cases failed.symm.trans failed'
      exact ⟨rfl, rfl⟩
    | gone hr missing => cases failed.symm.trans (hgone hr missing)
    | listed listed => cases failed.symm.trans listed
  | gone hr missing =>
    cases h' with
    | failed failed => cases failed.symm.trans (hgone hr missing)
    | gone => exact ⟨rfl, rfl⟩
    | listed listed => cases listed.symm.trans (hgone hr missing)
  | listed listed scan =>
    cases h' with
    | failed failed => cases failed.symm.trans listed
    | gone hr missing => cases listed.symm.trans (hgone hr missing)
    | listed listed' scan' =>
      cases listed.symm.trans listed'
      exact scan.unique scan'

theorem Verdict.congr {n : Nat} {result : Except Failure Bool} (h : Verdict holds answers result n)
    (same : ∀ i ≤ n, others i = answers i) : Verdict holds others result n := by
  have hfirst : others 0 = answers 0 := same 0 (Nat.zero_le n)
  cases h with
  | failed failed => exact .failed (by rw [hfirst, failed])
  | gone hr missing => exact .gone (by rw [hfirst, hr]) missing
  | listed listed scan =>
    exact .listed (by rw [hfirst, listed]) (scan.congr fun i hi => same (i + 1) hi)

/-- What a search comes to is settled by the answers up to the one that decides it. -/
theorem hold_of_verdict {p : PipelineRun} {n : Nat} {result : Except Failure Bool}
    (h : Verdict holds answers result n) :
    (server answers).hold (p.anyTaskInState holds).run {} = (result, p.searched answers n) := by
  obtain ⟨result', n', hverdict, hhold⟩ := p.hold_anyTaskInState holds answers
  obtain ⟨rfl, rfl⟩ := h.unique hverdict
  exact hhold

/-- The search says yes, because of a condition that its last answer shows first. -/
def SaysYesBy (x : Client Bool) (answers : Nat → Except Failure Response) (c : Condition) : Prop :=
  ∃ n asked s, (server answers).hold x.run {} = (.ok true, ⟨n + 1, asked⟩) ∧
    (answers n).bind (Response.snapshot? .taskRun) = .ok (some s) ∧ s.condition? = some c

theorem Verdict.yes {n : Nat} (h : Verdict holds answers (.ok true) n) :
    ∃ s c, (answers n).bind (Response.snapshot? .taskRun) = .ok (some s) ∧
      s.condition? = some c ∧ holds c = true := by
  cases h with
  | listed _ scan =>
    cases scan with
    | decided _ _ decides =>
      cases decides with
      | matched shown first h => exact ⟨_, _, shown, first, h⟩

theorem holds_of_saysYesBy {p : PipelineRun} {c : Condition}
    (h : SaysYesBy (p.anyTaskInState holds) answers c) : holds c = true := by
  obtain ⟨n, asked, s, hhold, shown, first⟩ := h
  obtain ⟨result, m, hverdict, hhold'⟩ := p.hold_anyTaskInState holds answers
  obtain ⟨rfl, hrecord⟩ := Prod.mk.inj (hhold'.symm.trans hhold)
  obtain rfl : m = n := Nat.succ.inj (congrArg Record.sent hrecord)
  obtain ⟨s', c', shown', first', hholds⟩ := hverdict.yes
  cases shown.symm.trans shown'
  cases first.symm.trans first'
  exact hholds

theorem Verdict.yes_iff (p : PipelineRun) {n : Nat} {result : Except Failure Bool}
    (h : Verdict holds answers result n) : result = .ok true ↔
      ∃ c, holds c = true ∧ SaysYesBy (p.anyTaskInState holds) answers c := by
  have hhold := hold_of_verdict (p := p) h
  constructor
  · rintro rfl
    obtain ⟨s, c, shown, first, hholds⟩ := h.yes
    exact ⟨c, hholds, n, _, s, hhold, shown, first⟩
  · rintro ⟨c, -, m, asked, s, hyes, -, -⟩
    exact (Prod.mk.inj (hhold.symm.trans hyes)).1

theorem Verdict.no_iff {n : Nat} {result : Except Failure Bool}
    (h : Verdict holds answers result n) : result = .ok false ↔
      (∃ r, answers 0 = .ok r ∧ r.status = 404) ∨
      ∃ s, (answers 0).bind (Response.snapshot? .pipelineRun) = .ok (some s) ∧
        ∀ i < s.taskRuns.length, Passes holds (answers (i + 1)) := by
  constructor
  · rintro rfl
    cases h with
    | gone hr missing => exact .inl ⟨_, hr, missing⟩
    | @listed s _ _ listed scan =>
      cases scan with
      | exhausted passed => exact .inr ⟨s, listed, passed⟩
      | decided _ _ decides => cases decides
  · rintro (⟨r, hr, missing⟩ | ⟨s, listed, passed⟩)
    · exact (h.unique (.gone hr missing)).1
    · exact (h.unique (.listed listed (.exhausted passed))).1

/-- Whatever is answered: a search looks up the pipeline run and then its task runs one by one, in
the order of the pipeline run, as far as the first one that satisfies the predicate or cannot be
read. That one decides, whatever would be answered after it. No condition lets a search for failed
task runs and one for cancelled task runs both say yes. -/
theorem search_ends_with_first_decision (p : PipelineRun)
    (answers : Nat → Except Failure Response) :
    (∀ holds, ∃ result n, Verdict holds answers result n ∧
      (∀ others, (∀ i ≤ n, others i = answers i) →
        (server others).hold (p.anyTaskInState holds).run {} = (result, p.searched answers n)) ∧
      (result = .ok true ↔ ∃ c, holds c = true ∧ SaysYesBy (p.anyTaskInState holds) answers c) ∧
      (result = .ok false ↔ (∃ r, answers 0 = .ok r ∧ r.status = 404) ∨
        ∃ s, (answers 0).bind (Response.snapshot? .pipelineRun) = .ok (some s) ∧
          ∀ i < s.taskRuns.length, Passes holds (answers (i + 1)))) ∧
    ∀ others c, SaysYesBy p.anyTaskFailed answers c → ¬ SaysYesBy p.anyTaskCancelled others c := by
  constructor
  · intro holds
    obtain ⟨result, n, hverdict, -⟩ := p.hold_anyTaskInState holds answers
    refine ⟨result, n, hverdict, fun others same => ?_, hverdict.yes_iff p, hverdict.no_iff⟩
    have hlisted : p.searched others n = p.searched answers n := by
      rw [searched, searched, same 0 (Nat.zero_le n)]
    rw [hold_of_verdict (hverdict.congr same), hlisted]
  · intro others c hfailed hcancelled
    have hisFailed : p.config.policy.isFailedTask c = true := holds_of_saysYesBy hfailed
    have hisCancelled : p.config.policy.isCancelledTask c = true := holds_of_saysYesBy hcancelled
    rw [(p.config.policy.failed_of_isFailedTask c hisFailed).2] at hisCancelled
    cases hisCancelled

/-! A pipeline run with four task runs: one is gone, of one nothing is known, one is cancelled, and
the last cannot be read. -/

def staged : PipelineRun := ⟨{ apiUrl := "https://api.example.test", «namespace» := "ns" }, "run"⟩

def stagedAnswers : Nat → Except Failure Response
  | 0 => .ok ⟨200, "\x7b\"status\":\x7b\"childReferences\":[" ++
      "\x7b\"kind\":\"TaskRun\",\"name\":\"a\"\x7d,\x7b\"kind\":\"TaskRun\",\"name\":\"b\"\x7d," ++
      "\x7b\"kind\":\"TaskRun\",\"name\":\"c\"\x7d,\x7b\"kind\":\"TaskRun\",\"name\":\"d\"\x7d" ++
      "]\x7d\x7d"⟩
  | 1 => .ok ⟨404, "not found"⟩
  | 2 => .ok ⟨200, "\x7b\x7d"⟩
  | 3 => .ok ⟨200, "\x7b\"status\":\x7b\"completionTime\":\"2024-01-01T00:00:00Z\"," ++
      "\"conditions\":[\x7b\"status\":\"False\",\"reason\":\"Cancelled\"\x7d]\x7d\x7d"⟩
  | _ => .ok ⟨503, "busy"⟩

/-- The same, but for the task run that could not be read. -/
def stagedElsewise (i : Nat) : Except Failure Response :=
  if i ≤ 3 then stagedAnswers i else .error (.connection "reset")

/-- The cancelled task run decides, so that the one behind it is not asked for. -/
theorem search_ends_with_first_decision_staged :
    (∀ i ≤ 3, stagedElsewise i = stagedAnswers i) ∧ stagedElsewise 4 ≠ stagedAnswers 4 ∧
      (server stagedAnswers).hold staged.anyTaskCancelled.run {} =
        (.ok true, staged.searched stagedAnswers 3) ∧
      (server stagedElsewise).hold staged.anyTaskCancelled.run {} =
        (.ok true, staged.searched stagedAnswers 3) ∧
      ∃ c, SaysYesBy staged.anyTaskCancelled stagedAnswers c ∧
        ∀ others, ¬ SaysYesBy staged.anyTaskFailed others c := by
  have hsame : ∀ i ≤ 3, stagedElsewise i = stagedAnswers i := fun i hi => if_pos hi
  have hyes : Prod.map id Record.sent
      ((server stagedAnswers).hold staged.anyTaskCancelled.run {}) = (.ok true, 4) := by
    decide +kernel
  obtain ⟨result, n, -, hhold, hyesIff, -⟩ :=
    (search_ends_with_first_decision staged stagedAnswers).1 staged.config.policy.isCancelledTask
  have hown := hhold stagedAnswers fun _ _ => rfl
  obtain ⟨rfl, hn⟩ := Prod.mk.inj ((congrArg (Prod.map id Record.sent) hown).symm.trans hyes)
  obtain rfl : n = 3 := Nat.succ.inj hn
  obtain ⟨c, -, hc⟩ := hyesIff.mp rfl
  refine ⟨hsame, by decide, hown, hhold stagedElsewise hsame, c, hc, fun others hfailed => ?_⟩
  exact (search_ends_with_first_decision staged others).2 stagedAnswers c hfailed hc

end PipelineObserver.PipelineRun
