import Mathlib.Data.Nat.Find
import Mathlib.Tactic.IntervalCases
import PipelineObserver.Config.Environment
import PipelineObserver.Proofs.Surroundings
import PipelineObserver.Proofs.Watch.Items
import PipelineObserver.Tracker.FinishWait
/-!
Waiting for a finish in the course of time: when each look-up is sent, and which of them decides the
wait. Answers may take as long as they like. Where the clock ends before the deadline, there is no
look-up at all.
-/
namespace PipelineObserver.FinishWait

/-- An answer to a look-up, and how long it takes. -/
structure Poll where
  latency : Nat
  answer : Except Failure Response

/-- The time, and all requests that were sent, each with the time at which it was. -/
structure Timeline where
  clock : Nat
  sent : List (Request × Nat) := []

/-- A server that answers one request after the other, and streams nothing. -/
def server (polls : Nat → Poll) : Surroundings Timeline where
  answer
    | .send r, w =>
      ((polls w.sent.length).answer,
        ⟨w.clock + (polls w.sent.length).latency, w.sent ++ [(r, w.clock)]⟩)
    | .openStream _, w => (.error (.apiError 404 ""), w)
    | .readLine _, w => (.ok none, w)
    | .sleep duration, w => ((), { w with clock := w.clock + duration })
    | .now, w => (w.clock, w)

variable (t : Tracker) (polls : Nat → Poll) (start : Nat)

def lookUp : Request := .get (t.config.resourcePath t.kind t.name)

/-- What a look-up brings. -/
def found (k : Nat) : Except Failure (Option Snapshot) :=
  (polls k).answer.bind (Response.snapshot? t.kind)

/-- The resource is there and not finished. -/
def isPending : Except Failure (Option Snapshot) → Bool
  | .ok (some s) => !t.isFinished s
  | _ => false

/-- When a look-up is sent, if the wait gets to it: a pause after the answer to the one before. -/
def sentAt : Nat → Nat
  | 0 => start
  | k + 1 => sentAt k + (polls k).latency + t.config.wait.pollInterval

def answeredAt (k : Nat) : Nat := sentAt t polls start k + (polls k).latency

def deadlineAfter : Nat := start + t.config.wait.timeout

/-- What the wait comes to with its last look-up, which was answered at some time. -/
def verdict (time : Nat) (last : Except Failure (Option Snapshot)) : Result :=
  if isPending t last then
    if Bounds.lastTime < time + t.config.wait.pollInterval then .panicked
    else .returned (.error (expired ⟨t, none⟩))
  else .returned last

/-- The first look-ups with the times at which they are sent. -/
def requests (count : Nat) : List (Request × Nat) :=
  (List.range count).map fun k => (lookUp t, sentAt t polls start k)

/-- The wait that begins at the start comes to a result, and leaves things at some time. -/
def Ends (result : Result) (w : Timeline) : Prop :=
  (server polls).Returns turn t.waitForFinish ⟨start, []⟩ result w

/-! ### One turn -/

theorem requests_succ (k : Nat) : requests t polls start (k + 1) =
    requests t polls start k ++ [(lookUp t, sentAt t polls start k)] := by
  simp only [requests, List.range_succ, List.map_append, List.map_cons, List.map_nil]

theorem length_requests (k : Nat) : (requests t polls start k).length = k := by
  rw [requests, List.length_map, List.length_range]

/-- The time before a look-up. -/
def before (k : Nat) : Timeline := ⟨sentAt t polls start k, requests t polls start k⟩

/-- The time after its answer. -/
def after (k : Nat) : Timeline := ⟨answeredAt t polls start k, requests t polls start (k + 1)⟩

theorem hold_snapshot (k : Nat) : (server polls).hold t.snapshot.run (before t polls start k) =
    (found t polls k, after t polls start k) := by
  have hanswer : (server polls).answer (.send (.get (t.config.resourcePath t.kind t.name)))
      (before t polls start k) = ((polls k).answer, after t polls start k) := by
    simp only [server, before, after, length_requests, requests_succ, answeredAt]
    rfl
  rw [Tracker.snapshot_run, Surroundings.hold_ask, hanswer]
  rfl

theorem later?_eq_none {time duration : Nat} (h : Bounds.lastTime < time + duration) :
    later? time duration = none := if_pos h

theorem later?_eq_some {time duration : Nat} (h : time + duration ≤ Bounds.lastTime) :
    later? time duration = some (time + duration) := if_neg (Nat.not_lt.mpr h)

/-- What follows from the time when the wait begins. -/
def begun (time : Nat) : Outcome :=
  match later? time t.config.wait.timeout with
  | none => .yield .panicked ⟨t, none⟩
  | some deadline => .again ⟨t, some deadline⟩

theorem turn_begin : turn ⟨t, none⟩ = .ask .now fun time => .done (begun t time) := by
  refine congrArg (Dialogue.ask .now) (funext fun time => ?_)
  rw [Dialogue.bind_done]
  unfold begun
  dsimp only
  cases later? time t.config.wait.timeout <;> rfl

/-- What follows from the time after a look-up that decides nothing. -/
def undecided (d time : Nat) : Dialogue Outcome :=
  match later? time t.config.wait.pollInterval with
  | none => .done (.yield .panicked ⟨t, some d⟩)
  | some next =>
    if d < next then .done (.yield (.returned (.error (expired ⟨t, none⟩))) ⟨t, some d⟩)
    else .ask (.sleep t.config.wait.pollInterval) fun _ => .done (.again ⟨t, some d⟩)

theorem turn_eq (d : Nat) : turn ⟨t, some d⟩ = t.snapshot.run.bind fun found =>
    if isPending t found then .ask .now (undecided t d)
    else .done (.yield (.returned found) ⟨t, some d⟩) := by
  simp only [turn, Dialogue.bind_eq]
  congr 1
  funext found
  rcases found with e | _ | s
  · rfl
  · rfl
  · cases hs : t.isFinished s with
    | true => simp [isPending, hs]
    | false =>
      simp only [isPending, hs, Bool.not_false, ↓reduceIte, Bool.false_eq_true]
      refine congrArg (Dialogue.ask .now) (funext fun time => ?_)
      rw [Dialogue.bind_done]
      unfold undecided
      cases later? time t.config.wait.pollInterval with
      | none => rfl
      | some next =>
        dsimp only
        split <;> rfl

theorem hold_turn_begin (fits : deadlineAfter t start ≤ Bounds.lastTime) :
    (server polls).hold (turn ⟨t, none⟩) ⟨start, []⟩ =
      (.again ⟨t, some (deadlineAfter t start)⟩, before t polls start 0) := by
  have hnow : (server polls).answer .now ⟨start, []⟩ = (start, ⟨start, []⟩) := rfl
  rw [turn_begin, Surroundings.hold_ask, hnow, begun, later?_eq_some fits]
  rfl

theorem hold_turn_overrun (overrun : Bounds.lastTime < deadlineAfter t start) :
    (server polls).hold (turn ⟨t, none⟩) ⟨start, []⟩ =
      (.yield .panicked ⟨t, none⟩, ⟨start, []⟩) := by
  have hnow : (server polls).answer .now ⟨start, []⟩ = (start, ⟨start, []⟩) := rfl
  rw [turn_begin, Surroundings.hold_ask, hnow, begun, later?_eq_none overrun]
  rfl

theorem hold_turn_pending {d k : Nat} (h : isPending t (found t polls k) = true)
    (fits : d ≤ Bounds.lastTime)
    (early : answeredAt t polls start k + t.config.wait.pollInterval ≤ d) :
    (server polls).hold (turn ⟨t, some d⟩) (before t polls start k) =
      (.again ⟨t, some d⟩, before t polls start (k + 1)) := by
  have hnow : (server polls).answer .now (after t polls start k) =
      (answeredAt t polls start k, after t polls start k) := rfl
  rw [turn_eq, Surroundings.hold_bind, hold_snapshot, if_pos h, Surroundings.hold_ask, hnow,
    undecided, later?_eq_some (early.trans fits)]
  dsimp only
  rw [if_neg (Nat.not_lt.mpr early)]
  rfl

theorem hold_turn_expired {d k : Nat} (h : isPending t (found t polls k) = true)
    (late : d < answeredAt t polls start k + t.config.wait.pollInterval) :
    (server polls).hold (turn ⟨t, some d⟩) (before t polls start k) =
      (.yield (verdict t (answeredAt t polls start k) (found t polls k)) ⟨t, some d⟩,
        after t polls start k) := by
  have hnow : (server polls).answer .now (after t polls start k) =
      (answeredAt t polls start k, after t polls start k) := rfl
  rw [turn_eq, Surroundings.hold_bind, hold_snapshot, if_pos h, Surroundings.hold_ask, hnow,
    undecided, verdict, if_pos h]
  by_cases hover :
      Bounds.lastTime < answeredAt t polls start k + t.config.wait.pollInterval
  · rw [later?_eq_none hover, if_pos hover]
    rfl
  · rw [later?_eq_some (Nat.not_lt.mp hover), if_neg hover]
    dsimp only
    rw [if_pos late]
    rfl

theorem hold_turn_decided {d k : Nat} (h : isPending t (found t polls k) = false) :
    (server polls).hold (turn ⟨t, some d⟩) (before t polls start k) =
      (.yield (verdict t (answeredAt t polls start k) (found t polls k)) ⟨t, some d⟩,
        after t polls start k) := by
  have hpending : ¬ isPending t (found t polls k) = true := by simp [h]
  rw [turn_eq, Surroundings.hold_bind, hold_snapshot, if_neg hpending, verdict, if_neg hpending]
  rfl

/-! ### The whole wait -/

/-- No look-up comes after this one. -/
def IsLast (k : Nat) : Prop :=
  isPending t (found t polls k) = true →
    deadlineAfter t start < answeredAt t polls start k + t.config.wait.pollInterval

instance : DecidablePred (IsLast t polls start) := fun _ => by unfold IsLast; infer_instance

theorem pending_of_not_isLast {k : Nat} (h : ¬ IsLast t polls start k) :
    isPending t (found t polls k) = true ∧
      answeredAt t polls start k + t.config.wait.pollInterval ≤ deadlineAfter t start := by
  rw [IsLast, Classical.not_imp] at h
  exact ⟨h.1, Nat.not_lt.mp h.2⟩

theorem start_add_le_sentAt (k : Nat) :
    start + k * t.config.wait.pollInterval ≤ sentAt t polls start k := by
  induction k with
  | zero =>
    rw [Nat.zero_mul]
    exact Nat.le_refl start
  | succ k ih =>
    rw [Nat.succ_mul, sentAt]
    omega

theorem exists_isLast (h : 0 < t.config.wait.pollInterval) : ∃ k, IsLast t polls start k := by
  refine ⟨t.config.wait.timeout / t.config.wait.pollInterval, fun _ => ?_⟩
  have hsent := start_add_le_sentAt t polls start
    (t.config.wait.timeout / t.config.wait.pollInterval)
  have htimeout : t.config.wait.timeout <
      (t.config.wait.timeout / t.config.wait.pollInterval + 1) * t.config.wait.pollInterval :=
    Nat.lt_mul_of_div_lt (Nat.lt_succ_self _) h
  rw [Nat.succ_mul] at htimeout
  unfold deadlineAfter answeredAt
  omega

theorem returns_last {k : Nat} (h : IsLast t polls start k) :
    (server polls).Returns turn ⟨t, some (deadlineAfter t start)⟩ (before t polls start k)
      (verdict t (answeredAt t polls start k) (found t polls k)) (after t polls start k) := by
  cases hpending : isPending t (found t polls k) with
  | true => exact .yield (hold_turn_expired t polls start hpending (h hpending))
  | false => exact .yield (hold_turn_decided t polls start hpending)

theorem ends_at (fits : deadlineAfter t start ≤ Bounds.lastTime) {n : Nat}
    (last : IsLast t polls start n) (earlier : ∀ k < n, ¬ IsLast t polls start k) :
    Ends t polls start (verdict t (answeredAt t polls start n) (found t polls n))
      (after t polls start n) := by
  -- From the last look-up back to the first one.
  have hfrom (k : Nat) (hk : k ≤ n) :
      (server polls).Returns turn ⟨t, some (deadlineAfter t start)⟩ (before t polls start k)
        (verdict t (answeredAt t polls start n) (found t polls n)) (after t polls start n) := by
    induction hk using Nat.decreasingInduction with
    | self => exact returns_last t polls start last
    | of_succ k hk ih =>
      obtain ⟨hpending, hearly⟩ := pending_of_not_isLast t polls start (earlier k hk)
      exact .again (hold_turn_pending t polls start hpending fits hearly) ih
  exact .again (hold_turn_begin t polls start fits) (hfrom 0 (Nat.zero_le n))

/-- Without a deadline that the clock can tell, nothing is sent. -/
theorem ends_overrun_iff (overrun : Bounds.lastTime < deadlineAfter t start) (result : Result)
    (w : Timeline) : Ends t polls start result w ↔ result = .panicked ∧ w = ⟨start, []⟩ := by
  have hpanics : Ends t polls start .panicked ⟨start, []⟩ :=
    .yield (hold_turn_overrun t polls start overrun)
  constructor
  · intro hresult
    exact Surroundings.Returns.unique hresult hpanics
  · rintro ⟨rfl, rfl⟩
    exact hpanics

theorem sentAt_le_deadline {n : Nat} (earlier : ∀ k < n, ¬ IsLast t polls start k) {k : Nat}
    (hk : k ≤ n) : sentAt t polls start k ≤ deadlineAfter t start := by
  cases k with
  | zero => exact Nat.le_add_right start _
  | succ k => exact (pending_of_not_isLast t polls start (earlier k hk)).2

theorem found_eq_none_iff (k : Nat) :
    found t polls k = .ok none ↔ ∃ r, (polls k).answer = .ok r ∧ r.status = 404 := by
  unfold found
  cases (polls k).answer with
  | error e => simp [Except.bind]
  | ok r =>
    have hnone : (Except.ok r : Except Failure Response).bind (Response.snapshot? t.kind) =
        .ok none ↔ r.status = 404 := r.snapshot?_eq_none_iff
    simpa using hnone

theorem verdict_panicked_iff (time : Nat) (last : Except Failure (Option Snapshot)) :
    verdict t time last = .panicked ↔
      isPending t last = true ∧ Bounds.lastTime < time + t.config.wait.pollInterval := by
  unfold verdict
  split <;> simp [*]

theorem verdict_timeout_iff (time : Nat) {last : Except Failure (Option Snapshot)}
    (own : ∀ detail, last ≠ .error (.timeout detail)) :
    (∃ detail, verdict t time last = .returned (.error (.timeout detail))) ↔
      isPending t last = true ∧ time + t.config.wait.pollInterval ≤ Bounds.lastTime := by
  unfold verdict
  split
  · rw [← Nat.not_lt]
    split <;> simp [expired, *]
  · simp [*]

/-- A wait ends, with the first look-up that finds the resource finished or gone or fails, or with a
timeout. The first look-up is sent at once and each later one a pause after the answer to the one
before, none of them after the deadline. A timeout means that the resource was there and not
finished each time, and that the next look-up would have come too late. All this holds as long as
the clock can tell the times in question: a wait whose deadline is beyond its end panics at once,
without any look-up, and one whose next look-up would be panics instead of a timeout. -/
theorem ends_within_budget (h : 0 < t.config.wait.pollInterval) :
    (Bounds.lastTime < start + t.config.wait.timeout → ∀ result w,
      Ends t polls start result w ↔ result = .panicked ∧ w = ⟨start, []⟩) ∧
    (start + t.config.wait.timeout ≤ Bounds.lastTime →
      ∃ n, n ≤ t.config.wait.timeout / t.config.wait.pollInterval ∧
        (∀ k ≤ n, sentAt t polls start k ≤ start + t.config.wait.timeout) ∧
        (∀ k < n, isPending t (found t polls k) = true) ∧
        (∀ k, found t polls k = .ok none ↔ ∃ r, (polls k).answer = .ok r ∧ r.status = 404) ∧
        (∀ result w, Ends t polls start result w ↔
          result = verdict t (answeredAt t polls start n) (found t polls n) ∧
            w = ⟨answeredAt t polls start n, requests t polls start (n + 1)⟩) ∧
        ∀ result w, Ends t polls start result w →
          (result = .panicked ↔ (∀ k ≤ n, isPending t (found t polls k) = true) ∧
            Bounds.lastTime < answeredAt t polls start n + t.config.wait.pollInterval) ∧
          ((∀ detail, found t polls n ≠ .error (.timeout detail)) →
            ((∃ detail, result = .returned (.error (.timeout detail))) ↔
              (∀ k ≤ n, isPending t (found t polls k) = true) ∧
                start + t.config.wait.timeout <
                  answeredAt t polls start n + t.config.wait.pollInterval ∧
                answeredAt t polls start n + t.config.wait.pollInterval ≤ Bounds.lastTime))) := by
  refine ⟨ends_overrun_iff t polls start, fun fits => ?_⟩
  have hexists := exists_isLast t polls start h
  have hlast := Nat.find_spec hexists
  have hearlier (k : Nat) (hk : k < Nat.find hexists) : ¬ IsLast t polls start k :=
    Nat.find_min hexists hk
  generalize Nat.find hexists = n at hlast hearlier
  have hsent := sentAt_le_deadline t polls start hearlier (Nat.le_refl n)
  have hbudget := start_add_le_sentAt t polls start n
  have hpending (k : Nat) (hk : k < n) : isPending t (found t polls k) = true :=
    (pending_of_not_isLast t polls start (hearlier k hk)).1
  have hall : isPending t (found t polls n) = true ↔
      ∀ k ≤ n, isPending t (found t polls k) = true := by
    constructor
    · intro hn k hk
      rcases Nat.lt_or_eq_of_le hk with hk | rfl
      · exact hpending k hk
      · exact hn
    · exact fun hall => hall n (Nat.le_refl n)
  have hends (result : Result) (w : Timeline) : Ends t polls start result w ↔
      result = verdict t (answeredAt t polls start n) (found t polls n) ∧
        w = ⟨answeredAt t polls start n, requests t polls start (n + 1)⟩ := by
    constructor
    · intro hresult
      exact Surroundings.Returns.unique hresult (ends_at t polls start fits hlast hearlier)
    · rintro ⟨rfl, rfl⟩
      exact ends_at t polls start fits hlast hearlier
  refine ⟨n, ?_, fun k hk => sentAt_le_deadline t polls start hearlier hk, hpending,
    found_eq_none_iff t polls, hends, fun result w hresult => ?_⟩
  · rw [Nat.le_div_iff_mul_le h]
    unfold deadlineAfter at hsent
    omega
  · rw [((hends result w).mp hresult).1, verdict_panicked_iff, ← hall]
    refine ⟨Iff.rfl, fun own => ?_⟩
    rw [verdict_timeout_iff t _ own]
    constructor
    · rintro ⟨hn, htold⟩
      exact ⟨hn, hlast hn, htold⟩
    · rintro ⟨hn, -, htold⟩
      exact ⟨hn, htold⟩

/-! A pipeline run that does not finish, looked up for the last time on the deadline itself. -/

def unfinishedRun : Tracker where
  config := {
    apiUrl := "https://api.example.test"
    «namespace» := "ns"
    wait := { pollInterval := 5000, timeout := 10000 } }
  kind := .pipelineRun
  name := "run"

def runningPoll : Poll where
  latency := 0
  answer := .ok ⟨200,
    "\x7b\"status\":\x7b\"conditions\":[\x7b\"status\":\"Unknown\"," ++
      "\"reason\":\"Running\"\x7d]\x7d\x7d"⟩

theorem ends_within_budget_on_deadline :
    0 < unfinishedRun.config.wait.pollInterval ∧
      ∃ detail, Ends unfinishedRun (fun _ => runningPoll) 0 (.returned (.error (.timeout detail)))
        ⟨10000, [(lookUp unfinishedRun, 0), (lookUp unfinishedRun, 5000),
          (lookUp unfinishedRun, 10000)]⟩ := by
  have hpositive : 0 < unfinishedRun.config.wait.pollInterval := by decide
  have hpending (k : Nat) :
      isPending unfinishedRun (found unfinishedRun (fun _ => runningPoll) k) = true := by
    change isPending unfinishedRun (found unfinishedRun (fun _ => runningPoll) 0) = true
    decide +kernel
  obtain ⟨n, hn, -, -, -, hends, hresults⟩ :=
    (ends_within_budget unfinishedRun (fun _ => runningPoll) 0 hpositive).2 (by decide)
  have hown (detail : String) :
      found unfinishedRun (fun _ => runningPoll) n ≠ .error (.timeout detail) := by
    intro herror
    have hn := hpending n
    rw [herror] at hn
    cases hn
  have hresult := (hends _ _).mpr ⟨rfl, rfl⟩
  have hn2 : n ≤ 2 := hn
  have htold : answeredAt unfinishedRun (fun _ => runningPoll) 0 n +
      unfinishedRun.config.wait.pollInterval ≤ Bounds.lastTime := by
    interval_cases n <;> decide
  obtain ⟨detail, hdetail⟩ := (verdict_timeout_iff unfinishedRun _ hown).mpr ⟨hpending n, htold⟩
  have hlate := (((hresults _ _ hresult).2 hown).mp ⟨detail, hdetail⟩).2.1
  rw [hdetail] at hresult
  -- An earlier look-up would leave time for another one.
  obtain rfl : n = 2 := by
    interval_cases n
    · exact absurd hlate (by decide)
    · exact absurd hlate (by decide)
    · rfl
  exact ⟨hpositive, detail, hresult⟩

/-! The greatest number of seconds that the environment can give, for a run that is finished. -/

def boundlessVariables : Table String := .ofList
  [("PIPEWATCH_API_URL", "https://api.example.test"), ("PIPEWATCH_NAMESPACE", "ns"),
    ("PIPEWATCH_WAIT_TIMEOUT_SECS", "18446744073709551615")]

def boundlessRun : Tracker where
  config := {
    apiUrl := "https://api.example.test"
    «namespace» := "ns"
    wait := { timeout := Bounds.greatestUnsigned64 * 1000 } }
  kind := .pipelineRun
  name := "run"

def finishedPoll : Poll where
  latency := 0
  answer := .ok ⟨200,
    "\x7b\"status\":\x7b\"conditions\":[\x7b\"status\":\"True\"," ++
      "\"reason\":\"Succeeded\"\x7d]\x7d\x7d"⟩

def finishedSnapshot : Snapshot where
  kind := "PipelineRun"
  name := ""
  conditions := [⟨.true, "Succeeded", "", none⟩]
  children := []
  podReference := none
  steps := []
  results := []
  labels := []
  annotations := []
  raw := .object [("status", .object [("conditions",
    .array [.object [("reason", .text "Succeeded"), ("status", .text "True")]])])]

/-- The settings are valid and the run is finished, yet it is not even looked up. -/
theorem boundless_timeout_panics :
    Config.ofEnvironment boundlessVariables = .ok boundlessRun.config ∧
      boundlessRun.config.validate = .ok () ∧
      found boundlessRun (fun _ => finishedPoll) 0 = .ok (some finishedSnapshot) ∧
      boundlessRun.isFinished finishedSnapshot = true ∧
      Ends boundlessRun (fun _ => finishedPoll) 0 .panicked ⟨0, []⟩ ∧
      ∀ last w, ¬ Ends boundlessRun (fun _ => finishedPoll) 0 (.returned last) w := by
  have hiff := ends_overrun_iff boundlessRun (fun _ => finishedPoll) 0 (by decide)
  have hfound : Response.snapshot? .pipelineRun ⟨200,
      "\x7b\"status\":\x7b\"conditions\":[\x7b\"status\":\"True\"," ++
        "\"reason\":\"Succeeded\"\x7d]\x7d\x7d"⟩ = .ok (some finishedSnapshot) := by
    decide +kernel
  refine ⟨?_, by decide +kernel, hfound, by decide +kernel, (hiff _ _).mpr ⟨rfl, rfl⟩, ?_⟩
  · decide +kernel
  · intro last w hreturned
    cases ((hiff _ _).mp hreturned).1

end PipelineObserver.FinishWait
