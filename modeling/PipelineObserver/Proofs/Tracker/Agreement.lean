import PipelineObserver.Proofs.Runs
import PipelineObserver.Proofs.Tracker.Finish
/-!
What the queries about one resource have to do with each other. Each of them classifies the first
condition of a snapshot in its own way; `queries_agree` relates them all, whatever the policy and
whatever the document of the resource.
-/
namespace PipelineObserver

/-! ### Conditions -/

/-- A resource with this lifecycle is past its progress. -/
def Lifecycle.IsOver (l : Lifecycle) : Prop := l = .succeeded ∨ l = .failed ∨ l = .cancelled

instance : DecidablePred Lifecycle.IsOver := fun _ => by unfold Lifecycle.IsOver; infer_instance

/-- The lifecycle of a condition, with the reason for it. -/
inductive StatePolicy.Classified (p : StatePolicy) (c : Condition) : Lifecycle → Prop
  | cancelled (h : p.isCancelled c.reason = true) : Classified p c .cancelled
  | succeeded (h : p.isCancelled c.reason = false) (status : c.status = .true) :
      Classified p c .succeeded
  | failed (h : p.isCancelled c.reason = false) (status : c.status = .false) :
      Classified p c .failed
  | running (h : p.isCancelled c.reason = false) (status : c.status = .unknown)
      (reason : c.reason = Condition.runningReason) : Classified p c .running
  | notStarted (h : p.isCancelled c.reason = false) (status : c.status = .unknown)
      (reason : c.reason ≠ Condition.runningReason) : Classified p c .notStarted

namespace StatePolicy

variable (p : StatePolicy) (c : Condition)

theorem classified : p.Classified c (p.lifecycle (some c)) := by
  unfold lifecycle
  dsimp only
  cases h : p.isCancelled c.reason with
  | true =>
    rw [if_pos rfl]
    exact .cancelled h
  | false =>
    rw [if_neg Bool.false_ne_true]
    cases hstatus : c.status with
    | true => exact .succeeded h hstatus
    | false => exact .failed h hstatus
    | unknown =>
      by_cases hreason : c.reason = Condition.runningReason
      · have hrunning : c.isRunning = true := by simp [Condition.isRunning, hstatus, hreason]
        rw [hrunning]
        exact .running h hstatus hreason
      · have hrunning : c.isRunning = false := by simp [Condition.isRunning, hreason]
        rw [hrunning]
        exact .notStarted h hstatus hreason

theorem lifecycle_cancelled_iff :
    p.lifecycle (some c) = .cancelled ↔ p.isCancelled c.reason = true := by
  have hclass := p.classified c
  generalize p.lifecycle (some c) = l at hclass
  cases hclass with
  | cancelled h => simp [h]
  | _ h => simp [h]

theorem isOver_iff : (p.lifecycle (some c)).IsOver ↔ p.isUnfinished c = false := by
  have hclass := p.classified c
  generalize p.lifecycle (some c) = l at hclass
  cases hclass with
  | cancelled h => simp [Lifecycle.IsOver, isUnfinished, h]
  | _ h status => simp [Lifecycle.IsOver, isUnfinished, h, status]

theorem failed_of_isFailedTask (h : p.isFailedTask c = true) :
    p.lifecycle (some c) = .failed ∧ p.isCancelledTask c = false := by
  simp only [isFailedTask, Bool.and_eq_true, decide_eq_true_eq, Bool.not_eq_true'] at h
  obtain ⟨⟨hstatus, hcancelled⟩, -⟩ := h
  have hclass := p.classified c
  generalize p.lifecycle (some c) = l at hclass
  cases hclass with
  | failed => exact ⟨rfl, hcancelled⟩
  | cancelled h => rw [hcancelled] at h; cases h
  | _ h status => rw [hstatus] at status; cases status

theorem started_of_running (h : p.lifecycle (some c) = .running) :
    c.hasStarted = true ∧ p.isUnfinished c = true := by
  have hclass := p.classified c
  rw [h] at hclass
  cases hclass with
  | running h status reason =>
    have hrunning : c.isRunning = true := by simp [Condition.isRunning, status, reason]
    exact ⟨by simp [Condition.hasStarted, hrunning], by simp [isUnfinished, h, status]⟩

theorem over_of_terminal (h : c.status.isTerminal = true) :
    c.hasStarted = true ∧ p.isUnfinished c = false := by
  have hstatus : c.status ≠ .unknown := by
    intro hunknown
    rw [hunknown] at h
    cases h
  exact ⟨by simp [Condition.hasStarted, h], by simp [isUnfinished, hstatus]⟩

end StatePolicy

/-! ### Documents that report no state -/

namespace Json

/-- The value of a field that is neither absent nor null. -/
def given? (name : String) (fields : Table Json) : Option Json :=
  (Table.get? name fields).filter fun v => v ≠ .null

theorem optional?_eq_some {α : Type} {decode : Json → Option α} {name : String}
    {fields : Table Json} {found : Option α} (h : optional? decode name fields = some found) :
    (given? name fields = none ∧ found = none) ∨
      ∃ v a, given? name fields = some v ∧ decode v = some a ∧ found = some a := by
  unfold optional? at h
  unfold given?
  generalize Table.get? name fields = entry at h ⊢
  split at h
  case h_1 | h_2 =>
    cases h
    exact .inl ⟨rfl, rfl⟩
  case h_3 v hnull =>
    obtain ⟨a, ha, rfl⟩ := Option.map_eq_some_iff.mp h
    have hgiven : (some v).filter (fun v => v ≠ .null) = some v := by simpa using hnull
    exact .inr ⟨v, a, hgiven, ha, rfl⟩

theorem list?_eq_nil_iff {α : Type} {decode : Json → Option α} {doc : Json} {as : List α}
    (h : list? decode doc = some as) : as = [] ↔ doc = .array [] := by
  cases doc with
  | array elements =>
    have hmapM : elements.mapM decode = some as := h
    cases elements with
    | nil =>
      obtain rfl : [] = as := Option.some.inj hmapM
      exact iff_of_true rfl rfl
    | cons first rest =>
      simp only [List.mapM_cons, Option.bind_eq_bind, Option.bind_eq_some_iff, Option.pure_def,
        Option.some.injEq] at hmapM
      obtain ⟨a, -, more, -, rfl⟩ := hmapM
      exact iff_of_false (List.cons_ne_nil a more) nofun
  | _ => cases h

end Json

namespace Document

def resourceFields : List String := ["kind", "metadata", "status"]

def statusFields : List String :=
  ["conditions", "startTime", "completionTime", "childReferences", "podName", "steps",
    "taskResults", "pipelineResults", "results", "phase"]

/-- What a record, given with the names of its fields, says in one of them. -/
def said? (names : List String) (name : String) (record : Json) : Option Json :=
  (Json.fields? names record).bind (Json.given? name)

theorem said?_eq {names : List String} {record : Json} {fields : Table Json}
    (h : Json.fields? names record = some fields) (name : String) :
    said? names name record = Json.given? name fields := by
  rw [said?, h, Option.bind_some]

/-- A status block that says nothing about the state of a resource of this kind. -/
def Stateless (k : Kind) (status : Json) : Prop :=
  match k with
  | .pod => said? statusFields "phase" status = none
  | .pipelineRun | .taskRun =>
    ∀ conditions, said? statusFields "conditions" status = some conditions → conditions = .array []

/-- A document that says nothing about the state of its resource. -/
def Unreported (k : Kind) (doc : Json) : Prop :=
  ∀ status, said? resourceFields "status" doc = some status → Stateless k status

theorem conditionsOf_eq_nil_iff {k : Kind} {doc : Json} {status : Status}
    (h : status? doc = some status) : status.conditionsOf k = [] ↔ Stateless k doc := by
  simp only [status?, Option.bind_eq_bind, Option.bind_eq_some_iff, Option.pure_def,
    Option.some.injEq] at h
  obtain ⟨fields, hfields, conditions, hconditions, -, -, time, -, children, -, podName, -, steps,
    -, taskResults, -, pipelineResults, -, results, -, phase, hphase, rfl⟩ := h
  have hsaid (name : String) : said? statusFields name doc = Json.given? name fields :=
    said?_eq hfields name
  have hlist : conditions.getD [] = [] ↔
      ∀ v, said? statusFields "conditions" doc = some v → v = .array [] := by
    rw [hsaid]
    rcases Json.optional?_eq_some hconditions with ⟨hnone, rfl⟩ | ⟨v, cs, hv, hcs, rfl⟩
    · simp [hnone]
    · simp [hv, Json.list?_eq_nil_iff hcs]
  have hphase : phase = none ↔ said? statusFields "phase" doc = none := by
    rw [hsaid]
    rcases Json.optional?_eq_some hphase with ⟨hnone, rfl⟩ | ⟨v, name, hv, -, rfl⟩
    · simp [hnone]
    · simp [hv]
  cases k with
  | pod => simp [Status.conditionsOf, Stateless, ← hphase]
  | pipelineRun => simp [Status.conditionsOf, Status.reported, Stateless, ← hlist]
  | taskRun => simp [Status.conditionsOf, Status.reported, Stateless, ← hlist]

theorem conditions_eq_nil_iff {k : Kind} {doc : Json} {s : Snapshot}
    (h : Snapshot.ofDocument? k doc = some s) : s.conditions = [] ↔ Unreported k doc := by
  simp only [Snapshot.ofDocument?, Option.bind_eq_bind, Option.bind_eq_some_iff, Option.pure_def,
    Option.some.injEq] at h
  obtain ⟨fields, hfields, kind, -, metadata, -, status, hstatus, rfl⟩ := h
  have hsaid : said? resourceFields "status" doc = Json.given? "status" fields :=
    said?_eq hfields "status"
  rw [Unreported, hsaid]
  rcases Json.optional?_eq_some hstatus with ⟨hnone, rfl⟩ | ⟨v, block, hv, hblock, rfl⟩
  · -- Without a status block there are neither conditions nor a phase.
    cases k <;> simp [hnone, Status.conditionsOf, Status.reported]
  · simp [hv, conditionsOf_eq_nil_iff hblock]

end Document

/-! ### Queries -/

namespace Tracker

variable {ω : Type}

/-- In this state, the server answers a look-up with this document. -/
def Shows (S : Surroundings ω) (w : ω) (t : Tracker) (doc : Json) : Prop :=
  ∃ r, (S.answer (.send (FinishWait.lookUp t)) w).1 = .ok r ∧ r.isSuccess = true ∧
    Json.parse? r.body = some doc

variable {S : Surroundings ω} {w : ω} {t : Tracker} {doc : Json} {s : Snapshot}

theorem Shows.snapshot (h : Shows S w t doc) (hs : Snapshot.ofDocument? t.kind doc = some s) :
    (S.hold t.snapshot.run w).1 = .ok (some s) := by
  obtain ⟨r, hanswer, hsuccess, hdoc⟩ := h
  have hfound : r.snapshot? t.kind = .ok (some s) := by
    rw [snapshot?_of_parse? hsuccess hdoc, hs]
    rfl
  rw [snapshot_run, Surroundings.hold_ask]
  change (S.answer (.send (FinishWait.lookUp t)) w).1.bind (Response.snapshot? t.kind) = _
  rw [hanswer]
  exact hfound

theorem hold_return {α β : Type} {x : Client α} {f : α → β} {a : α}
    (h : (S.hold x.run w).1 = .ok a) :
    (S.hold (do return f (← x) : Client β).run w).1 = .ok (f a) := by
  change (S.hold (x.run.bind (ExceptT.bindCont fun a => pure (f a))) w).1 = .ok (f a)
  rw [Surroundings.hold_bind, h]
  rfl

/-- What the queries about a resource say of one of its snapshots. -/
structure Agreement (t : Tracker) (doc : Json) (s : Snapshot) : Prop where
  finished : t.isFinished s = true ↔ (t.config.policy.lifecycle s.condition?).IsOver
  failedTask : ∀ c, t.config.policy.isFailedTask c = true →
    t.config.policy.lifecycle (some c) = .failed ∧ t.config.policy.isCancelledTask c = false
  running : t.config.policy.lifecycle s.condition? = .running →
    s.hasStarted = true ∧ t.isFinished s = false
  terminal : s.isTerminal = true → s.hasStarted = true ∧ t.isFinished s = true
  unreported : s.conditions = [] ↔ Document.Unreported t.kind doc
  stateless : s.conditions = [] → t.config.policy.lifecycle s.condition? = .notStarted ∧
    s.hasStarted = false ∧ s.isTerminal = false ∧ t.isFinished s = false
  -- Asked of a server that shows the document, each query is about this snapshot.
  asked : ∀ {ω : Type} (S : Surroundings ω) (w : ω), Shows S w t doc →
    (S.hold t.lifecycle.run w).1 = .ok (t.config.policy.lifecycle s.condition?) ∧
    (S.hold t.hasFinished.run w).1 = .ok (t.isFinished s) ∧
    (S.hold t.wasCancelled.run w).1 =
      .ok (decide (t.config.policy.lifecycle s.condition? = .cancelled))

theorem isFinished_iff (t : Tracker) :
    t.isFinished s = true ↔ (t.config.policy.lifecycle s.condition?).IsOver := by
  unfold isFinished
  cases s.condition? with
  | none => simp [StatePolicy.lifecycle, Lifecycle.IsOver]
  | some c => simp [StatePolicy.isOver_iff]

theorem agreement (hs : Snapshot.ofDocument? t.kind doc = some s) : Agreement t doc s := by
  -- Whether it was cancelled is asked of the reason alone.
  have hcancelled : s.condition?.any (fun c => t.config.policy.isCancelled c.reason) =
      decide (t.config.policy.lifecycle s.condition? = .cancelled) := by
    cases s.condition? with
    | none => rfl
    | some c => simp [StatePolicy.lifecycle_cancelled_iff]
  constructor
  case finished => exact t.isFinished_iff
  case failedTask =>
    intro c hc
    exact t.config.policy.failed_of_isFailedTask c hc
  case running =>
    intro hrunning
    unfold Snapshot.hasStarted isFinished
    cases hc : s.condition? with
    | none =>
      rw [hc] at hrunning
      cases hrunning
    | some c =>
      rw [hc] at hrunning
      simpa using t.config.policy.started_of_running c hrunning
  case terminal =>
    unfold Snapshot.isTerminal Snapshot.hasStarted isFinished
    intro hterminal
    cases hc : s.condition? with
    | none =>
      rw [hc] at hterminal
      cases hterminal
    | some c =>
      rw [hc] at hterminal
      simpa using t.config.policy.over_of_terminal c hterminal
  case unreported => exact Document.conditions_eq_nil_iff hs
  case stateless =>
    intro hnil
    have hnone : s.condition? = none := by rw [Snapshot.condition?, hnil, List.head?_nil]
    simp [Snapshot.hasStarted, Snapshot.isTerminal, isFinished, hnone, StatePolicy.lifecycle]
  case asked =>
    intro ω S w hshows
    have hsnapshot := hshows.snapshot hs
    have hcondition : (S.hold t.condition?.run w).1 = .ok s.condition? := hold_return hsnapshot
    have hreason : (S.hold t.reason?.run w).1 = .ok (s.condition?.map (·.reason)) :=
      hold_return hcondition
    have hwas := hold_return (f := fun reason => reason.any t.config.policy.isCancelled) hreason
    rw [Option.any_map] at hwas
    refine ⟨hold_return hcondition, hold_return hsnapshot, ?_⟩
    rw [← hcancelled]
    exact hwas

end Tracker

namespace FinishWait

variable {t : Tracker} {w : FinishWait} {asked : List Exchange} {o : Outcome}

/-- A turn leaves the target as it was, and yields a snapshot only if it shows an end. -/
theorem turn_holds (h : w.turn.Follows asked o) : o.state.target = w.target ∧
    ∀ s, .returned (.ok (some s)) ∈ o.yields → w.target.isFinished s = true := by
  obtain ⟨t, _ | deadline⟩ := w
  · rw [turn_begin] at h
    obtain ⟨time, rest, -, hbegun⟩ := Dialogue.follows_ask_iff.mp h
    obtain ⟨-, rfl⟩ := Dialogue.follows_done_iff.mp hbegun
    unfold begun
    split <;> exact ⟨rfl, by simp⟩
  rw [turn_eq] at h
  obtain ⟨u, v, found, -, -, hfound⟩ := Dialogue.follows_bind_iff.mp h
  cases hpending : isPending t found with
  | false =>
    rw [hpending, if_neg Bool.false_ne_true] at hfound
    obtain ⟨-, rfl⟩ := Dialogue.follows_done_iff.mp hfound
    refine ⟨rfl, fun s hs => ?_⟩
    obtain rfl : found = .ok (some s) := by simpa [eq_comm] using hs
    simpa [isPending] using hpending
  | true =>
    rw [hpending, if_pos rfl] at hfound
    obtain ⟨time, rest, -, hlate⟩ := Dialogue.follows_ask_iff.mp hfound
    unfold undecided at hlate
    split at hlate
    · obtain ⟨-, rfl⟩ := Dialogue.follows_done_iff.mp hlate
      exact ⟨rfl, by simp⟩
    · split at hlate
      · obtain ⟨-, rfl⟩ := Dialogue.follows_done_iff.mp hlate
        exact ⟨rfl, by simp⟩
      · obtain ⟨_, _, _, hagain⟩ := Dialogue.follows_ask_iff.mp hlate
        obtain ⟨-, rfl⟩ := Dialogue.follows_done_iff.mp hagain
        exact ⟨rfl, by simp⟩

/-- So far the target is as it was at first, and each snapshot that was yielded shows an end. -/
def Held (t : Tracker) (happened : List (Happening Result)) (w : FinishWait) : Prop :=
  w.target = t ∧ ∀ s, .returned (.ok (some s)) ∈ yields happened → t.isFinished s = true

variable {happened : List (Happening Result)}

theorem Held.step (held : Held t happened w) (h : w.turn.Follows asked o) :
    Held t (happened ++ o.happenings asked) o.state := by
  obtain ⟨rfl, hbefore⟩ := held
  obtain ⟨hstate, hyields⟩ := turn_holds h
  refine ⟨hstate, fun s hs => ?_⟩
  rw [yields_append, yields_happenings, List.mem_append] at hs
  exact hs.elim (hbefore s) (hyields s)

theorem held_of_run (run : Run turn t.waitForFinish happened w) : Held t happened w := by
  have hstart : Held t [] t.waitForFinish := ⟨rfl, by simp [yields]⟩
  have hheld := run.keeps (P := Held t) ?_ hstart
  · rwa [List.nil_append] at hheld
  · intro before w asked o held h
    exact held.step h

end FinishWait

/-- The queries about a resource agree, whatever the policy and whatever the document of the
resource. So a wait for the finish never returns a snapshot that has not started or is running. -/
theorem queries_agree (t : Tracker) :
    (∀ doc s, Snapshot.ofDocument? t.kind doc = some s → t.Agreement doc s) ∧
      ∀ happened w, Run FinishWait.turn t.waitForFinish happened w →
        ∀ s, .yielded (.returned (.ok (some s))) ∈ happened →
          t.config.policy.lifecycle s.condition? ≠ .notStarted ∧
            t.config.policy.lifecycle s.condition? ≠ .running := by
  refine ⟨fun doc s hs => Tracker.agreement hs, ?_⟩
  intro happened w run s hs
  have hover := t.isFinished_iff.mp ((FinishWait.held_of_run run).2 s (mem_yields.mpr hs))
  constructor
  · intro h
    rw [h] at hover
    exact absurd hover (by decide)
  · intro h
    rw [h] at hover
    exact absurd hover (by decide)

/-! A running pod, where the reason of a running one is on each list of the policy. -/

def overlapping : Tracker where
  config := {
    apiUrl := "https://api.example.test"
    «namespace» := "ns"
    policy := {
      cancelledReasons := ["Running"]
      skippedReasons := ["Running"]
      succeededReasons := ["Running"] } }
  kind := .pod
  name := "pod"

def runningDocument : Json := .object [("status", .object [("phase", .text "Running")])]

def runningAnswer : Response := ⟨200, "\x7b\"status\":\x7b\"phase\":\"Running\"\x7d\x7d"⟩

def runningSnapshot : Snapshot where
  kind := "Pod"
  name := ""
  conditions := [⟨.unknown, "Running", "", none⟩]
  children := []
  podReference := none
  steps := []
  results := []
  labels := []
  annotations := []
  raw := runningDocument

/-- The pod is looked up once, at the start of the wait. -/
def overlappingCourse : List (Happening FinishWait.Result) :=
  [.exchanged ⟨.now, (0 : Nat)⟩, .exchanged (overlapping.lookedUp (.ok runningAnswer)),
    .yielded (.returned (.ok (some runningSnapshot)))]

theorem run_overlapping : Run FinishWait.turn overlapping.waitForFinish overlappingCourse
    ⟨overlapping, some 18000000⟩ := by
  have hbegin : overlapping.waitForFinish.turn.Follows [⟨.now, (0 : Nat)⟩]
      (.again ⟨overlapping, some 18000000⟩) := by
    have hfits : FinishWait.begun overlapping 0 = .again ⟨overlapping, some 18000000⟩ := by
      rw [FinishWait.begun, FinishWait.later?_eq_some (by decide)]
      rfl
    rw [← hfits]
    exact FinishWait.turn_begin overlapping ▸
      Dialogue.follows_ask_iff.mpr ⟨(0 : Nat), [], rfl, .done _⟩
  have hfound : runningAnswer.snapshot? .pod = .ok (some runningSnapshot) := by decide +kernel
  have hturn : (FinishWait.turn ⟨overlapping, some 18000000⟩).Follows
      [overlapping.lookedUp (.ok runningAnswer)]
      (.yield (.returned (.ok (some runningSnapshot))) ⟨overlapping, some 18000000⟩) := by
    have hanswer : (Except.ok runningAnswer).bind (Response.snapshot? overlapping.kind) =
        .ok (some runningSnapshot) := hfound
    rw [FinishWait.turn_eq, Tracker.snapshot_run, Dialogue.bind_ask]
    refine Dialogue.follows_ask_iff.mpr ⟨.ok runningAnswer, [], rfl, ?_⟩
    rw [Dialogue.bind_done, hanswer]
    exact .done _
  exact .again hbegin (.yield hturn (.refl _))

theorem queries_agree_overlapping :
    Snapshot.ofDocument? overlapping.kind runningDocument = some runningSnapshot ∧
      overlapping.config.policy.lifecycle runningSnapshot.condition? = .cancelled ∧
      overlapping.Agreement runningDocument runningSnapshot ∧
      Run FinishWait.turn overlapping.waitForFinish overlappingCourse
        ⟨overlapping, some 18000000⟩ ∧
      overlapping.config.policy.lifecycle runningSnapshot.condition? ≠ .running := by
  have hdocument :
      Snapshot.ofDocument? overlapping.kind runningDocument = some runningSnapshot := by
    decide +kernel
  obtain ⟨hagree, hwait⟩ := queries_agree overlapping
  have hover := hwait _ _ run_overlapping runningSnapshot (by simp [overlappingCourse])
  exact ⟨hdocument, by decide +kernel, hagree _ _ hdocument, run_overlapping, hover.2⟩

end PipelineObserver
