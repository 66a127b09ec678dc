import Mathlib.Data.List.Flatten
import PipelineObserver.Proofs.Logs.Resumption
/-!
How often logs are asked for, if the clock never goes back. The requests for one source are kept
apart, so that time bounds their number, and each but the first asks for the log from a moment that
is less than two seconds after the last activity: `reconnections_paced`.
-/
namespace PipelineObserver

section Clock

variable {α : Type}

/-- The times that were told, in their order. -/
def toldTimes (happened : List (Happening α)) : List Nat :=
  (exchanges happened).filterMap fun
    | ⟨.now, time⟩ => some time
    | _ => none

theorem toldTimes_append (happened more : List (Happening α)) :
    toldTimes (happened ++ more) = toldTimes happened ++ toldTimes more := by
  rw [toldTimes, exchanges_append, List.filterMap_append]
  rfl

/-- No time passes where neither the server nor the caller is waited for. -/
def Prompt (happened : List (Happening α)) : Prop :=
  ∀ x y : Nat, [.exchanged ⟨.now, x⟩, .exchanged ⟨.now, y⟩] <:+: happened → x = y

end Clock

/-- The requests for logs, each with the time that was told last before it. -/
def datedRequests (last : Nat) : List Exchange → List (Nat × Request)
  | [] => []
  | ⟨.now, time⟩ :: rest => datedRequests time rest
  | ⟨.openStream r, _⟩ :: rest =>
    if r.isForLog then (last, r) :: datedRequests last rest else datedRequests last rest
  | _ :: rest => datedRequests last rest

namespace LogAttempt

/-- When the stream was asked for, and when it delivered lines. -/
def activities (a : LogAttempt) : List Nat := a.time :: a.fate.lines.map (·.2)

/-- The times that were told. -/
def times (a : LogAttempt) : List Nat := a.activities ++ a.fate.stop?.toList.map (·.time)

/-- A stream is asked for after others of the same source: from so many seconds back on, after some
idle time since an instant, which is that of the last activity. -/
structure Resumes (minIdle : Nat) (before : List LogAttempt) (b : LogAttempt)
    (instant idle seconds : Nat) : Prop where
  active : instant ∈ before.flatMap (·.activities)
  latest : ∀ time ∈ before.flatMap (·.activities), time ≤ instant
  long : minIdle ≤ idle
  reached : instant + idle ≤ b.time
  since : b.since = some seconds
  whole : seconds = (idle - 1000) / 1000
  -- Nothing is asked for that was there before that instant.
  fresh : instant + seconds * 1000 ≤ b.time

end LogAttempt

namespace LogLines

open LogReading

/-- What is read once the gates have been passed: the containers given, or those that the snapshot
of the task run names. -/
inductive Targets : LogLines → Course → String → List String → Prop
  | pod (l : PodLogs) {gating : Course} : Targets l.stream gating l.pod l.containers
  | taskRun (l : TaskRunLogs) {first second : Course} {s : Snapshot} {pod : String}
      (passed : StartWait.Passed l.tracker (exchanges first) s)
      (reference : s.podReference = some pod) :
      Targets l.stream (first ++ second) pod s.stepContainers

/-- The pace of the requests for logs: no two for one source within the idle time that is needed to
give up a stream, and so never more than one for each source and one for each such time since the
gates were passed. -/
structure Paced (config : Config) (pod : String) (containers : List String)
    (happened gating : Course) (readings : List LogReading) (calls : Nat) : Prop where
  split : happened = gating ++ courseOf config pod readings calls
  sources : readings.map (·.source) <+: logSources containers
  requests : datedRequests 0 (exchanges happened) = readings.flatMap fun r =>
    r.attempts.map fun a => (a.time, config.followRequest pod r.source a.since)
  apart : ∀ r ∈ readings,
    r.attempts.Pairwise fun a b => a.time + config.logs.minIdleTimeout ≤ b.time
  bounded : ∀ opened time, (∀ x ∈ toldTimes (courseOf config pod readings calls), opened ≤ x) →
    (datedRequests 0 (exchanges happened)).countP (·.1 ≤ time) ≤
      (logSources containers).length + (time - opened) / config.logs.minIdleTimeout
  resumed : ∀ r ∈ readings, ∀ before b later, r.attempts = before ++ b :: later → before ≠ [] →
    ∃ instant idle seconds, b.Resumes config.logs.minIdleTimeout before instant idle seconds ∧
      (Prompt happened → b.time = instant + idle ∧ b.time < instant + seconds * 1000 + 2000)

/-! ### Times that are kept apart -/

/-- The last of some times that are kept apart, up to a given one. -/
theorem exists_last_of_apart {gap start time : Nat} {xs : List Nat}
    (apart : xs.Pairwise fun x y => x + gap ≤ y) (low : ∀ x ∈ xs, start ≤ x)
    (some_ : xs.countP (· ≤ time) ≠ 0) :
    ∃ x ∈ xs, x ≤ time ∧ start + gap * xs.countP (· ≤ time) ≤ x + gap := by
  induction xs generalizing start with
  | nil => simp at some_
  | cons x xs ih =>
    obtain ⟨hfirst, hrest⟩ := List.pairwise_cons.mp apart
    have hlow : start ≤ x := low x List.mem_cons_self
    by_cases hx : x ≤ time
    · have hcount : (x :: xs).countP (· ≤ time) = xs.countP (· ≤ time) + 1 := by simp [hx]
      rw [hcount]
      by_cases hmore : xs.countP (· ≤ time) = 0
      · refine ⟨x, List.mem_cons_self, hx, ?_⟩
        rw [hmore]
        omega
      · obtain ⟨y, hy, hle, hlast⟩ := ih hrest hfirst hmore
        refine ⟨y, List.mem_cons_of_mem x hy, hle, ?_⟩
        rw [Nat.mul_succ]
        omega
    · have hcount : (x :: xs).countP (· ≤ time) = xs.countP (· ≤ time) := by simp [hx]
      rw [hcount] at some_ ⊢
      obtain ⟨y, hy, hle, hlast⟩ :=
        ih hrest (fun y hy => low y (List.mem_cons_of_mem x hy)) some_
      exact ⟨y, List.mem_cons_of_mem x hy, hle, hlast⟩

/-- Up to a given time there is room for one time of each group, and for one more for each gap. -/
theorem countP_flatten_le {gap start time : Nat} {groups : List (List Nat)}
    (ordered : groups.flatten.Pairwise (· ≤ ·))
    (apart : ∀ xs ∈ groups, xs.Pairwise fun x y => x + gap ≤ y)
    (low : ∀ x ∈ groups.flatten, start ≤ x) :
    gap * groups.flatten.countP (· ≤ time) ≤ gap * groups.length + (time - start) := by
  induction groups generalizing start with
  | nil => simp
  | cons xs groups ih =>
    rw [List.flatten_cons, List.pairwise_append] at ordered
    obtain ⟨-, hordered, hacross⟩ := ordered
    obtain ⟨hxs, hapart⟩ := List.forall_mem_cons.mp apart
    rw [List.flatten_cons, List.forall_mem_append] at low
    obtain ⟨hlow, hlater⟩ := low
    rw [List.flatten_cons, List.countP_append, List.length_cons, Nat.mul_add, Nat.mul_succ]
    by_cases hnone : xs.countP (· ≤ time) = 0
    · have hrest := ih hordered hapart hlater
      rw [hnone]
      omega
    · -- The later groups begin after the last time of this one.
      obtain ⟨x, hx, hle, hlast⟩ := exists_last_of_apart hxs hlow hnone
      have hrest := ih hordered hapart (hacross x hx)
      omega

/-! ### When things happen -/

theorem map_datedRequests (happened : Course) (last : Nat) :
    (datedRequests last (exchanges happened)).map (·.2) = logRequests happened := by
  rw [logRequests]
  generalize exchanges happened = t
  induction t generalizing last with
  | nil => rfl
  | cons e t ih =>
    obtain ⟨q, answer⟩ := e
    cases q with
    | now => exact ih answer
    | openStream r =>
      rw [datedRequests, List.filterMap_cons]
      cases h : r.isForLog with
      | true => simp [h, ih]
      | false => simp [h, ih]
    | send r | readLine id | sleep d => exact ih last

theorem datedRequests_eq_nil {happened : Course} (h : logRequests happened = []) (last : Nat) :
    datedRequests last (exchanges happened) = [] := by
  rw [← map_datedRequests happened last] at h
  exact List.map_eq_nil_iff.mp h

theorem datedRequests_append (last : Nat) (t : List Exchange) : ∃ last', ∀ more,
    datedRequests last (t ++ more) = datedRequests last t ++ datedRequests last' more := by
  induction t generalizing last with
  | nil => exact ⟨last, fun more => rfl⟩
  | cons e t ih =>
    obtain ⟨q, answer⟩ := e
    cases q with
    | now => exact ih answer
    | openStream r =>
      obtain ⟨last', h⟩ := ih last
      refine ⟨last', fun more => ?_⟩
      rw [List.cons_append, datedRequests, datedRequests, h more]
      cases r.isForLog with
      | true => rfl
      | false => rfl
    | send r | readLine id | sleep d => exact ih last

variable {config : Config} {pod : String} {readings : List LogReading} {calls : Nat}

theorem datedRequests_attempt {request : Option Nat → Request} (a : LogAttempt)
    (h : (request a.since).isForLog = true) (last : Nat) :
    datedRequests last (exchanges (a.history request)) = [(a.time, request a.since)] := by
  obtain ⟨answer, rest, hrest⟩ : ∃ answer rest, a.fate.history (request a.since) =
      .exchanged ⟨.openStream (request a.since), answer⟩ :: rest := by
    cases a.fate with
    | refused time e => exact ⟨_, _, rfl⟩
    | opened id lines stop => exact ⟨_, _, rfl⟩
  let told : Course := a.failure?.toList.map fun e => .yielded (.error e)
  have hhistory : a.history request = .exchanged ⟨.now, a.time⟩ ::
      .exchanged ⟨.openStream (request a.since), answer⟩ :: (rest ++ told) := by
    rw [LogAttempt.history, hrest]
    rfl
  -- Nothing more is asked for.
  have hnothing : logRequests (rest ++ told) = [] := by
    have hone := logRequests_fate a.fate h
    rw [hrest, ← List.singleton_append, logRequests_append] at hone
    have htold : logRequests told = [] := by simp [told, logRequests, exchanges]
    have hfirst : logRequests [.exchanged ⟨.openStream (request a.since), answer⟩] =
        [request a.since] := by simp [logRequests, exchanges, h]
    rw [hfirst] at hone
    rw [logRequests_append, htold, List.append_nil]
    exact List.append_cancel_left (hone.trans (List.append_nil _).symm)
  have hdated := datedRequests_eq_nil hnothing a.time
  rw [hhistory]
  change datedRequests a.time (⟨.openStream (request a.since), answer⟩ ::
    exchanges (rest ++ told)) = _
  rw [datedRequests, if_pos h, hdated]

/-- What is dated in a history, part after part. -/
theorem datedRequests_flatMap {β : Type} {f : β → Course} {dated : β → List (Nat × Request)}
    {xs : List β} (h : ∀ x ∈ xs, ∀ last, datedRequests last (exchanges (f x)) = dated x)
    (last : Nat) : datedRequests last (exchanges (xs.flatMap f)) = xs.flatMap dated := by
  induction xs generalizing last with
  | nil => rfl
  | cons x xs ih =>
    obtain ⟨hx, hxs⟩ := List.forall_mem_cons.mp h
    obtain ⟨last', happend⟩ := datedRequests_append last (exchanges (f x))
    rw [List.flatMap_cons, exchanges_append, happend, hx, ih hxs, List.flatMap_cons]

theorem datedRequests_courseOf (last : Nat) :
    datedRequests last (exchanges (courseOf config pod readings calls)) =
      readings.flatMap fun r =>
        r.attempts.map fun a => (a.time, config.followRequest pod r.source a.since) := by
  have hreading : ∀ r ∈ readings, ∀ last, datedRequests last (exchanges (r.history config pod)) =
      r.attempts.map fun a => (a.time, config.followRequest pod r.source a.since) := by
    intro r _ last
    have hattempts : datedRequests r.time (exchanges
        (r.attempts.flatMap (·.history (config.followRequest pod r.source)))) = _ :=
      datedRequests_flatMap (fun a _ last =>
        datedRequests_attempt a (config.followRequest_isForLog pod r.source a.since) last) r.time
    rw [← List.map_eq_flatMap] at hattempts
    exact hattempts
  obtain ⟨last', happend⟩ :=
    datedRequests_append last (exchanges (readings.flatMap (·.history config pod)))
  have hend : logRequests (endCourse calls) = [] := by
    simp [logRequests, exchanges, endCourse]
  rw [courseOf, exchanges_append, happend, datedRequests_eq_nil hend, List.append_nil,
    datedRequests_flatMap hreading]

theorem toldTimes_attempt (request : Option Nat → Request) (a : LogAttempt) :
    toldTimes (a.history request) = a.times := by
  obtain ⟨since, time, fate⟩ := a
  have htold : toldTimes ((LogAttempt.failure? ⟨since, time, fate⟩).toList.map fun e =>
      (.yielded (.error e) : Happening (Except Failure (Option String)))) = [] := by
    simp [toldTimes, exchanges]
  rw [LogAttempt.history, toldTimes_append, htold, List.append_nil]
  cases fate with
  | refused later e => rfl
  | opened id lines stop =>
    cases stop <;>
      simp [toldTimes, exchanges, LogFate.history, LogAttempt.times, LogAttempt.activities,
        LogFate.lines, LogFate.stop?, List.filterMap_flatMap, ← List.map_eq_flatMap]

theorem toldTimes_flatMap {β : Type} (f : β → Course) (xs : List β) :
    toldTimes (xs.flatMap f) = xs.flatMap fun x => toldTimes (f x) := by
  induction xs with
  | nil => rfl
  | cons x xs ih => rw [List.flatMap_cons, toldTimes_append, ih, List.flatMap_cons]

theorem toldTimes_courseOf : toldTimes (courseOf config pod readings calls) =
    readings.flatMap fun r => r.time :: r.attempts.flatMap (·.times) := by
  have hend : toldTimes (endCourse calls) = [] := by simp [toldTimes, exchanges, endCourse]
  have hreading (r : LogReading) : toldTimes (r.history config pod) =
      r.time :: r.attempts.flatMap (·.times) := by
    rw [LogReading.history, ← List.singleton_append, toldTimes_append, toldTimes_flatMap]
    simp only [toldTimes_attempt]
    rfl
  rw [courseOf, toldTimes_append, hend, List.append_nil, toldTimes_flatMap]
  simp only [hreading]

/-! ### Streams of one source -/

theorem activities_eq (a : LogAttempt) :
    ∃ earlier, a.activities = earlier ++ [a.lastActivity] := by
  rcases List.eq_nil_or_concat a.fate.lines with h | ⟨lines, line, h⟩
  · refine ⟨[], ?_⟩
    simp [LogAttempt.activities, LogAttempt.lastActivity, h]
  · refine ⟨a.time :: lines.map (·.2), ?_⟩
    simp [LogAttempt.activities, LogAttempt.lastActivity, h]

/-- All the activity of a stream comes before it is found to be silent. -/
theorem silent_after_activity {a : LogAttempt} {idle : Nat} (ordered : a.times.Pairwise (· ≤ ·))
    (h : a.idle? = some idle) : ∃ d, a.fate.stop? = some d ∧
      d.failure.all (·.isTransient) = true ∧ d.time = a.lastActivity + idle ∧
      ∀ time ∈ a.activities, time ≤ a.lastActivity := by
  obtain ⟨d, hd, hidle⟩ := Option.bind_eq_some_iff.mp h
  obtain ⟨earlier, hactivities⟩ := activities_eq a
  rw [LogAttempt.times, hactivities, hd, List.pairwise_append, List.pairwise_append] at ordered
  obtain ⟨⟨-, -, hlast⟩, -, hstop⟩ := ordered
  have hsilent : a.lastActivity ≤ d.time := hstop _ (by simp) _ (by simp)
  split at hidle
  · rename_i hpassing
    refine ⟨d, hd, hpassing, ?_, fun time htime => ?_⟩
    · have hdifference := Option.some.inj hidle
      omega
    · rw [hactivities] at htime
      rcases List.mem_append.mp htime with htime | htime
      · exact hlast time htime _ (List.mem_singleton_self _)
      · exact Nat.le_of_eq (List.mem_singleton.mp htime)
  · cases hidle

section Source

variable {minIdle : Nat} {attempts : List LogAttempt}

/-- A stream of a source is asked for when the one before it has been silent for long. -/
theorem resumes_of_resumed {b : LogAttempt} (h : Resumed minIdle attempts b.since)
    (ordered : ((attempts ++ [b]).flatMap (·.times)).Pairwise (· ≤ ·)) (more : attempts ≠ []) :
    ∃ before a d idle seconds, attempts = before ++ [a] ∧ a.fate.stop? = some d ∧
      d.failure.all (·.isTransient) = true ∧ d.time = a.lastActivity + idle ∧
      b.Resumes minIdle attempts a.lastActivity idle seconds := by
  obtain ⟨hwithin, hacross⟩ := List.pairwise_flatMap.mp ordered
  generalize hsince : b.since = since at h
  cases h with
  | start => exact absurd rfl more
  | @again before a idle _ hidle long =>
    obtain ⟨d, hd, hpassing, htime, hlast⟩ := silent_after_activity (hwithin a (by simp)) hidle
    obtain ⟨hbefore, -, hb⟩ := List.pairwise_append.mp hacross
    have hstop : d.time ∈ a.times := by simp [LogAttempt.times, hd]
    have hactive : a.lastActivity ∈ a.activities := by
      obtain ⟨earlier, h⟩ := activities_eq a
      simp [h]
    have hreached : d.time ≤ b.time :=
      hb a (by simp) b (by simp) _ hstop _ (by simp [LogAttempt.times, LogAttempt.activities])
    refine ⟨before, a, d, idle, _, rfl, hd, hpassing, htime, ?_, fun x hx => ?_, long, ?_, hsince,
      rfl, ?_⟩
    · exact List.mem_flatMap.mpr ⟨a, by simp, hactive⟩
    · obtain ⟨a', ha', hx⟩ := List.mem_flatMap.mp hx
      rcases List.mem_append.mp ha' with ha' | ha'
      · obtain ⟨-, -, hacross'⟩ := List.pairwise_append.mp hbefore
        exact hacross' a' ha' a (List.mem_singleton_self a) x (List.mem_append_left _ hx) _
          (List.mem_append_left _ hactive)
      · rw [List.mem_singleton.mp ha'] at hx
        exact hlast x hx
    · omega
    · omega

theorem apart_from_next {b : LogAttempt} {since : Option Nat} (h : Resumed minIdle attempts since)
    (ordered : ((attempts ++ [b]).flatMap (·.times)).Pairwise (· ≤ ·)) :
    ∀ a ∈ attempts, a.time + minIdle ≤ b.time := by
  intro a ha
  obtain ⟨hwithin, hacross⟩ := List.pairwise_flatMap.mp ordered
  obtain ⟨idle, hidle, long⟩ := long_of_resumed h a ha
  obtain ⟨d, hd, -, htime, hlast⟩ :=
    silent_after_activity (hwithin a (List.mem_append_left _ ha)) hidle
  obtain ⟨-, -, hb⟩ := List.pairwise_append.mp hacross
  have hstop : d.time ∈ a.times := by simp [LogAttempt.times, hd]
  have hnext : d.time ≤ b.time := hb a ha b (List.mem_singleton_self b) _ hstop _ List.mem_cons_self
  have hasked : a.time ≤ a.lastActivity := hlast _ List.mem_cons_self
  omega

theorem apart_of_resumed {since : Option Nat} (h : Resumed minIdle attempts since)
    (ordered : (attempts.flatMap (·.times)).Pairwise (· ≤ ·)) :
    attempts.Pairwise fun a b => a.time + minIdle ≤ b.time := by
  induction h with
  | start => exact .nil
  | @again attempts a _ before _ _ ih =>
    have hfirst : (attempts.flatMap (·.times)).Pairwise (· ≤ ·) := by
      rw [List.flatMap_append, List.pairwise_append] at ordered
      exact ordered.1
    refine List.pairwise_append.mpr ⟨ih hfirst, List.pairwise_singleton .., fun x hx y hy => ?_⟩
    rw [List.mem_singleton.mp hy]
    exact apart_from_next before ordered x hx

theorem apart_of_continued {r : LogReading} (h : IsContinued minIdle r)
    (ordered : (r.attempts.flatMap (·.times)).Pairwise (· ≤ ·)) :
    r.attempts.Pairwise fun a b => a.time + minIdle ≤ b.time := by
  rcases List.eq_nil_or_concat r.attempts with hnil | ⟨attempts, b, hconcat⟩
  · rw [hnil]
    exact .nil
  · rw [List.concat_eq_append] at hconcat
    have hresumed := h attempts b [] hconcat
    rw [hconcat] at ordered ⊢
    have hfirst : (attempts.flatMap (·.times)).Pairwise (· ≤ ·) := by
      rw [List.flatMap_append, List.pairwise_append] at ordered
      exact ordered.1
    refine List.pairwise_append.mpr ⟨apart_of_resumed hresumed hfirst,
      List.pairwise_singleton .., fun x hx y hy => ?_⟩
    rw [List.mem_singleton.mp hy]
    exact apart_from_next hresumed ordered x hx

end Source

/-! ### The pace of a run -/

theorem history_ends_with_stop (request : Option Nat → Request) {a : LogAttempt} {d : StreamStop}
    (h : a.fate.stop? = some d) (passing : d.failure.all (·.isTransient) = true) :
    ∃ before, a.history request = before ++ [.exchanged ⟨.now, d.time⟩] := by
  have hnone : a.failure? = none := by
    rw [failure?_of_stop h]
    cases hd : d.failure with
    | none => rfl
    | some e =>
      rw [hd] at passing
      simpa [Option.filter] using passing
  obtain ⟨since, time, fate⟩ := a
  rw [LogAttempt.history, hnone]
  cases fate with
  | refused later e =>
    cases h
    exact ⟨[.exchanged ⟨.now, time⟩, .exchanged ⟨.openStream (request since), .error e⟩], rfl⟩
  | opened id lines stop =>
    obtain rfl : stop = some d := h
    exact ⟨.exchanged ⟨.now, time⟩ :: .exchanged ⟨.openStream (request since), .ok id⟩ ::
      (lines.flatMap fun x => [.exchanged ⟨.readLine id, .ok (some x.1)⟩, .exchanged ⟨.now, x.2⟩,
        .yielded (.ok (some x.1))]) ++ [.exchanged ⟨.readLine id, d.answer⟩],
      by simp [LogFate.history]⟩

/-- A stream is asked for as soon as the one before it is found to be silent. -/
theorem infix_of_next {r : LogReading} {before later : List LogAttempt} {a b : LogAttempt}
    {d : StreamStop} (split : r.attempts = before ++ [a] ++ b :: later)
    (h : a.fate.stop? = some d) (passing : d.failure.all (·.isTransient) = true) :
    [.exchanged ⟨.now, d.time⟩, .exchanged ⟨.now, b.time⟩] <:+: r.history config pod := by
  obtain ⟨front, hfront⟩ := history_ends_with_stop (config.followRequest pod r.source) h passing
  obtain ⟨rest, hrest⟩ : ∃ rest, b.history (config.followRequest pod r.source) =
      .exchanged ⟨.now, b.time⟩ :: rest := ⟨_, rfl⟩
  refine ⟨.exchanged ⟨.now, r.time⟩ ::
    before.flatMap (·.history (config.followRequest pod r.source)) ++ front,
    rest ++ later.flatMap (·.history (config.followRequest pod r.source)), ?_⟩
  rw [LogReading.history, split]
  simp [hfront, hrest]

theorem Targets.of_run {l s : LogLines} {happened : Course} (fresh : Fresh config l)
    (run : Run turn l happened s) : logRequests happened = [] ∨
      ∃ pod containers gating readings calls, Targets l gating pod containers ∧
        Opened config pod (logSources containers) happened gating readings calls s := by
  cases fresh with
  | pod l =>
    rcases opened_of_pod_run l run with hshut | ⟨gating, _, readings, calls, _, h⟩
    · exact .inl hshut.unasked
    · exact .inr ⟨_, _, gating, readings, calls, .pod l, h⟩
  | taskRun l =>
    rcases opened_of_taskRun_run l run with hshut | ⟨first, second, snapshot, pod, _, readings,
      calls, hpassed, hpod, _, h⟩
    · exact .inl hshut.unasked
    · exact .inr ⟨pod, _, first ++ second, readings, calls, .taskRun l hpassed hpod, h⟩

theorem sublist_toldTimes (readings : List LogReading) :
    (readings.flatMap fun r => r.attempts.map (·.time)).Sublist
      (toldTimes (courseOf config pod readings calls)) := by
  rw [toldTimes_courseOf]
  refine List.Sublist.flatMap_right _ fun r _ => .cons _ ?_
  rw [List.map_eq_flatMap]
  exact List.Sublist.flatMap_right _ fun a _ =>
    List.singleton_sublist.mpr List.mem_cons_self

theorem countP_asked_le {gap start : Nat} (positive : 0 < gap)
    (ordered : (readings.flatMap fun r => r.attempts.map (·.time)).Pairwise (· ≤ ·))
    (apart : ∀ r ∈ readings, r.attempts.Pairwise fun a b => a.time + gap ≤ b.time)
    (low : ∀ x ∈ readings.flatMap fun r => r.attempts.map (·.time), start ≤ x) (time : Nat) :
    (readings.flatMap fun r => r.attempts.map (·.time)).countP (· ≤ time) ≤
      readings.length + (time - start) / gap := by
  rw [List.flatMap_def] at ordered low ⊢
  have hapart : ∀ xs ∈ readings.map fun r => r.attempts.map (·.time),
      xs.Pairwise fun x y => x + gap ≤ y := by
    rintro xs hxs
    obtain ⟨r, hr, rfl⟩ := List.mem_map.mp hxs
    exact List.pairwise_map.mpr (apart r hr)
  have hroom : gap * ((readings.map fun r => r.attempts.map (·.time)).flatten.countP (· ≤ time)) ≤
      gap * _ + (time - start) := countP_flatten_le ordered hapart low
  rw [List.length_map, Nat.mul_comm, ← Nat.le_div_iff_mul_le positive,
    Nat.mul_add_div positive] at hroom
  exact hroom

theorem Opened.paced {s : LogLines} {containers : List String} {happened gating : Course}
    (h : Opened config pod (logSources containers) happened gating readings calls s)
    (ordered : (toldTimes happened).Pairwise (· ≤ ·)) (positive : 0 < config.logs.minIdleTimeout) :
    Paced config pod containers happened gating readings calls := by
  have hcontinued := h.account.place.isContinued
  have hdated : datedRequests 0 (exchanges happened) = readings.flatMap fun r =>
      r.attempts.map fun a => (a.time, config.followRequest pod r.source a.since) := by
    obtain ⟨last, happend⟩ := datedRequests_append 0 (exchanges gating)
    rw [h.split, exchanges_append, happend, datedRequests_eq_nil h.unasked, List.nil_append,
      datedRequests_courseOf]
  have hordered : (toldTimes (courseOf config pod readings calls)).Pairwise (· ≤ ·) := by
    rw [h.split, toldTimes_append, List.pairwise_append] at ordered
    exact ordered.2.1
  have hattempts : ∀ r ∈ readings, (r.attempts.flatMap (·.times)).Pairwise (· ≤ ·) := by
    intro r hr
    rw [toldTimes_courseOf] at hordered
    exact (List.pairwise_cons.mp ((List.pairwise_flatMap.mp hordered).1 r hr)).2
  have hapart : ∀ r ∈ readings,
      r.attempts.Pairwise fun a b => a.time + config.logs.minIdleTimeout ≤ b.time :=
    fun r hr => apart_of_continued (hcontinued r hr) (hattempts r hr)
  have hsources : readings.map (·.source) <+: logSources containers := ⟨_, h.account.sources⟩
  refine ⟨h.split, hsources, hdated, hapart, fun opened time low => ?_, ?_⟩
  · have hasked : (readings.flatMap fun r => r.attempts.map (·.time)).Sublist
        (toldTimes (courseOf config pod readings calls)) := sublist_toldTimes readings
    have hroom := countP_asked_le positive (hordered.sublist hasked) hapart
      (fun x hx => low x (hasked.subset hx)) time
    have hcount : (datedRequests 0 (exchanges happened)).countP (·.1 ≤ time) =
        (readings.flatMap fun r => r.attempts.map (·.time)).countP (· ≤ time) := by
      have hfirst : (readings.flatMap fun r => r.attempts.map (·.time)) =
          (datedRequests 0 (exchanges happened)).map (·.1) := by
        rw [hdated, List.map_flatMap]
        simp only [List.map_map, Function.comp_def]
      rw [hfirst, List.countP_map]
      rfl
    have hlength : readings.length ≤ (logSources containers).length := by
      rw [← List.length_map]
      exact hsources.length_le
    omega
  · intro r hr before b later split more
    have hresumed := hcontinued r hr before b later split
    have hprefix : ((before ++ [b]).flatMap (·.times)).Pairwise (· ≤ ·) := by
      have hall := hattempts r hr
      rw [split, List.append_cons, List.flatMap_append, List.pairwise_append] at hall
      exact hall.1
    obtain ⟨earlier, a, d, idle, seconds, rfl, hd, hpassing, htime, hresumes⟩ :=
      resumes_of_resumed hresumed hprefix more
    refine ⟨a.lastActivity, idle, seconds, hresumes, fun prompt => ?_⟩
    have hinfix : [.exchanged ⟨.now, d.time⟩, .exchanged ⟨.now, b.time⟩] <:+: happened := by
      have hreading : r.history config pod <:+: courseOf config pod readings calls := by
        obtain ⟨first, rest, rfl⟩ := List.append_of_mem hr
        exact ⟨first.flatMap (·.history config pod), rest.flatMap (·.history config pod) ++
          endCourse calls, by simp [courseOf]⟩
      rw [h.split]
      exact (infix_of_next split hd hpassing).trans
        (hreading.trans (List.suffix_append _ _).isInfix)
    have hprompt := prompt _ _ hinfix
    have hwhole := hresumes.whole
    omega

/-- Reconnections are limited in their rate and in how far they reach back, whatever the server does
and however long the caller waits between its calls. -/
theorem reconnections_paced {l s : LogLines} {happened : Course} (fresh : Fresh config l)
    (run : Run turn l happened s) (ordered : (toldTimes happened).Pairwise (· ≤ ·))
    (positive : 0 < config.logs.minIdleTimeout) :
    logRequests happened = [] ∨ ∃ pod containers gating readings calls,
      Targets l gating pod containers ∧
      Paced config pod containers happened gating readings calls := by
  rcases Targets.of_run fresh run with
    hnone | ⟨pod, containers, gating, readings, calls, htargets, h⟩
  · exact .inl hnone
  · exact .inr ⟨pod, containers, gating, readings, calls, htargets, h.paced ordered positive⟩

/-! A stream delivers a line after five seconds, and is cut a minute and half a second later. -/

def cutReadings : List LogReading :=
  [⟨some "main", 0, [⟨none, 0, .opened 1 [("ready", 5000)] (some ⟨65500, none⟩)⟩,
    ⟨some 59, 65500, .opened 2 [] none⟩]⟩]

def cutCourse : Course := hangingGating ++ courseOf hangingPod.config "pod" cutReadings 0

theorem run_cut : Run turn hangingPod.stream cutCourse (hanging (some 59) (some 2) 65500) := by
  have hstarted := (StartWait.started_iff _).mp LogServer.runningPod.started
  have hgate := Gateway.run_passing hangingPod.guards 0 LogServer.runningPod.announced
    LogServer.runningPod.shown hstarted (fun _ => hangingPod.gateway_next _)
  have htaken : Step (reading hangingPod.config "pod" [some "main"]) _
      (.again (hanging none none 0)) := .reads rfl rfl (.taken 0 rfl rfl)
  have hopened : Step (hanging none none 0) _ (.again (hanging none (some 1) 0)) :=
    .reads rfl rfl (.opened (c := ⟨some "main", none, none, 0⟩) 0 1 rfl rfl)
  have hline : Step (hanging none (some 1) 0) _
      (.yield (.ok (some "ready")) (hanging none (some 1) 5000)) :=
    .reads rfl rfl (.line (c := ⟨some "main", none, some 1, 0⟩) "ready" 5000 rfl rfl)
  have hcut : Step (hanging none (some 1) 5000) _ (.again (hanging (some 59) none 5000)) :=
    .reads rfl rfl (.closed (c := ⟨some "main", none, some 1, 5000⟩) 65500 rfl rfl)
  have hreopened : Step (hanging (some 59) none 5000) _
      (.again (hanging (some 59) (some 2) 65500)) :=
    .reads rfl rfl (.opened (c := ⟨some "main", some 59, none, 5000⟩) 65500 2 rfl rfl)
  exact hgate.trans (.again htaken.follows (.again hopened.follows (.yield hline.follows
    (.again hcut.follows (.again hreopened.follows (.refl _))))))

/-- The stream is asked for again at the time at which it is found to be silent. -/
theorem prompt_cut : Prompt cutCourse := by
  intro x y h
  have hpairs : (⟨.now, x⟩ : Exchange) =
        hangingPod.gateway.tracker.lookedUp (.ok LogServer.runningPod.document) ∧ y = 0 ∨
      x = 0 ∧ y = 0 ∨ x = 65500 ∧ y = 65500 := by
    simpa [cutCourse, hangingGating, Gateway.passing, courseOf, cutReadings, endCourse,
      LogReading.history, LogAttempt.history, LogFate.history, LogAttempt.failure?, LogFate.stop?,
      List.infix_cons_iff] using h
  rcases hpairs with ⟨hlooked, -⟩ | ⟨rfl, rfl⟩ | ⟨rfl, rfl⟩
  · cases hlooked
  · rfl
  · rfl

/-- Only one source is read of a pod with one container. -/
theorem Targets.sources {l : PodLogs} {gating : Course} {pod : String} {containers : List String}
    (h : Targets l.stream gating pod containers) :
    logSources containers = logSources l.containers := by
  generalize hstream : l.stream = lines at h
  cases h with
  | pod other => exact (congrArg LogLines.pending hstream).symm
  | taskRun other => cases congrArg LogLines.gate hstream

theorem reconnections_paced_cut :
    Run turn hangingPod.stream cutCourse (hanging (some 59) (some 2) 65500) ∧
    (toldTimes cutCourse).Pairwise (· ≤ ·) ∧ 0 < hangingPod.config.logs.minIdleTimeout ∧
    Prompt cutCourse ∧
    ∃ pod containers gating readings calls, Targets hangingPod.stream gating pod containers ∧
      Paced hangingPod.config pod containers cutCourse gating readings calls ∧
      ∃ r ∈ readings, ∃ a b, r.attempts = [a, b] ∧ b.time = 65500 ∧ ∃ instant idle seconds,
        b.Resumes hangingPod.config.logs.minIdleTimeout [a] instant idle seconds ∧
        b.time = instant + idle ∧ b.time < instant + seconds * 1000 + 2000 := by
  have hordered : (toldTimes cutCourse).Pairwise (· ≤ ·) := by decide
  have hpositive : 0 < hangingPod.config.logs.minIdleTimeout := by decide
  refine ⟨run_cut, hordered, hpositive, prompt_cut, ?_⟩
  have hasked : logRequests cutCourse ≠ [] := by decide +kernel
  obtain ⟨pod, containers, gating, readings, calls, htargets, hpaced⟩ :=
    (reconnections_paced (.pod hangingPod) run_cut hordered hpositive).resolve_left hasked
  refine ⟨pod, containers, gating, readings, calls, htargets, hpaced, ?_⟩
  have htimes : readings.flatMap (fun r => r.attempts.map (·.time)) = [0, 65500] := by
    have hdated := congrArg (List.map (·.1)) hpaced.requests
    rw [List.map_flatMap] at hdated
    simp only [List.map_map, Function.comp_def] at hdated
    rw [← hdated]
    decide +kernel
  have hone : readings.length ≤ 1 := by
    have hlength := hpaced.sources.length_le
    rw [htargets.sources, List.length_map] at hlength
    exact hlength
  obtain ⟨r, rfl⟩ : ∃ r, readings = [r] := by
    refine List.length_eq_one_iff.mp (Nat.le_antisymm hone (List.length_pos_iff.mpr ?_))
    rintro rfl
    cases htimes
  rw [List.flatMap_singleton] at htimes
  obtain ⟨a, rest, hattempts, -, hrest⟩ := List.map_eq_cons_iff.mp htimes
  obtain ⟨b, rest, rfl, htime, hnil⟩ := List.map_eq_cons_iff.mp hrest
  rw [List.map_eq_nil_iff.mp hnil] at hattempts
  obtain ⟨instant, idle, seconds, hresumes, hprompt⟩ := hpaced.resumed r
    (List.mem_singleton_self r) [a] b [] hattempts (List.cons_ne_nil a [])
  exact ⟨r, List.mem_singleton_self r, a, b, hattempts, htime, instant, idle, seconds, hresumes,
    hprompt prompt_cut⟩

end LogLines

end PipelineObserver
