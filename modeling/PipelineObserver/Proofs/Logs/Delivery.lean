import Mathlib.Data.List.Basic
import PipelineObserver.Proofs.Logs.Reading
/-!
Log lines are delivered exactly once, however often the server cuts a silent stream: a stream that
is opened again begins after the last line that was delivered, and before the next one that is written.
-/
namespace PipelineObserver.LogServer

/-- The last moment at which something happened to a stream: its opening, or its last line. -/
def latest (opened : Nat) (lines : List LogLine) : Nat :=
  lines.foldl (fun time x => max time x.time) opened

theorem latest_le_iff (opened time : Nat) (lines : List LogLine) :
    latest opened lines ≤ time ↔ opened ≤ time ∧ ∀ x ∈ lines, x.time ≤ time := by
  induction lines generalizing opened with
  | nil => simp [latest]
  | cons x rest ih =>
    have hcons : latest opened (x :: rest) = latest (max opened x.time) rest := rfl
    rw [hcons, ih, Nat.max_le, List.forall_mem_cons, and_assoc]

/-- Lines from before the opening of a stream are no activity of their own. -/
theorem latest_filter (since opened : Nat) (p : LogLine → Bool) (lines : List LogLine)
    (h : since ≤ opened) :
    latest opened (lines.filter fun x => since ≤ x.time ∧ p x) =
      latest opened (lines.filter p) := by
  induction lines generalizing opened with
  | nil => rfl
  | cons x rest ih =>
    by_cases hp : p x = true
    · by_cases hx : since ≤ x.time
      · have hmax : since ≤ max opened x.time := by omega
        simpa [hp, hx, latest] using ih (max opened x.time) hmax
      · have hmax : max opened x.time = opened := by omega
        simpa [hp, hx, latest, hmax] using ih opened h
    · simpa [hp] using ih opened h

/-- A log in the order of time is what was written up to a time, and then what is written later. -/
theorem filter_split (since time : Nat) (log : List LogLine)
    (sorted : log.Pairwise fun x y => x.time ≤ y.time) (h : since ≤ time) :
    log.filter (fun x => since ≤ x.time) =
      log.filter (fun x => since ≤ x.time ∧ x.time ≤ time) ++
        log.filter (fun x => time < x.time) := by
  induction sorted with
  | nil => rfl
  | @cons x rest before _ ih =>
    by_cases hx : x.time ≤ time
    · have hlate : ¬ time < x.time := by omega
      by_cases hs : since ≤ x.time <;> simpa [hx, hs, hlate] using ih
    · have hnone : rest.filter (fun y => since ≤ y.time ∧ y.time ≤ time) = [] := by
        simp only [List.filter_eq_nil_iff, decide_eq_true_eq]
        intro y hy
        have hxy := before y hy
        omega
      have hs : since ≤ x.time := by omega
      have hlate : time < x.time := by omega
      -- From here on everything is late.
      rw [hnone, List.nil_append] at ih
      simp only [List.filter_cons, hx, hs, hlate, and_false, decide_true, decide_false, ↓reduceIte,
        Bool.false_eq_true, hnone, List.nil_append, ih]

theorem start_le (since : Option Nat) (time : Nat) : start since time ≤ time := by
  cases since with
  | none => exact Nat.zero_le time
  | some seconds => exact Nat.sub_le ..

/-- After a silence, the next stream begins between the last activity and the present. -/
theorem start_resumed (last time : Nat) (h : last ≤ time) :
    last < start (some ((time - last - 1000) / 1000)) time ∨
      start (some ((time - last - 1000) / 1000)) time = time := by
  unfold start
  simp only
  omega

/-- What is left of a log after a cut is what a stream delivers that is opened at once for the time
since the last activity. -/
theorem filter_resumed (opened time : Nat) (log : List LogLine)
    (h : latest opened (log.filter fun x => x.time ≤ time) ≤ time)
    (apart : ∀ x ∈ log, x.time ≠ time) :
    (log.filter fun x => time < x.time) = log.filter fun x =>
      start (some ((time - latest opened (log.filter fun x => x.time ≤ time) - 1000) / 1000)) time ≤
        x.time := by
  apply List.filter_congr
  intro x hx
  have hbounds := ((latest_le_iff opened _ _).mp (Nat.le_refl
    (latest opened (log.filter fun x => x.time ≤ time)))).2 x
  have hresumed := start_resumed _ time h
  have hapart := apart x hx
  simp only [List.mem_filter, hx, decide_eq_true_eq, true_and] at hbounds
  simp only [decide_eq_decide]
  have hstart := start_le (some
    ((time - latest opened (log.filter fun x => x.time ≤ time) - 1000) / 1000)) time
  constructor
  · intro hlate
    omega
  · intro hstarted
    -- A line up to the cut is no later than the last activity; the new stream begins after that.
    by_cases hearly : x.time ≤ time
    · have hlast := hbounds hearly
      omega
    · omega

/-! ### Schedules -/

/-- How a server may end the streams over one log, of which the first is opened at a given time and
the last one is closed at another. It may cut a stream after a silence, though not when a line is
written; and it closes a stream soon after the last line of the log. -/
inductive Served (idle : Nat) (log : List LogLine) : Nat → List StreamEnd → Nat → Prop
  | closed {opened : Nat} {e : StreamEnd} (after : opened ≤ e.time)
      (complete : ∀ x ∈ log, x.time ≤ e.time) (soon : e.time < latest opened log + idle) :
      Served idle log opened [e] e.time
  | cut {opened closed : Nat} {e : StreamEnd} {later : List StreamEnd}
      (silent : latest opened (log.filter fun x => x.time ≤ e.time) + idle ≤ e.time)
      (apart : ∀ x ∈ log, x.time ≠ e.time) (rest : Served idle log e.time later closed) :
      Served idle log opened (e :: later) closed

/-- The ends of all streams over the logs of a list of containers, which are read one after the
other from a given time on. -/
inductive Scheduled (idle : Nat) (logs : Option String → List LogLine) :
    List (Option String) → Nat → List StreamEnd → Prop
  | done {time : Nat} : Scheduled idle logs [] time []
  | next {c : Option String} {containers : List (Option String)} {opened closed : Nat}
      {ends later : List StreamEnd} (here : Served idle (logs c) opened ends closed)
      (rest : Scheduled idle logs containers closed later) :
      Scheduled idle logs (c :: containers) opened (ends ++ later)

/-! ### Draining -/

section Draining

variable (pod : StartedPod) (pending : List (Option String)) (container : Option String)

theorem disconnected_done (c : LogCursor) (time : Nat)
    (h : time - c.lastActivity < pod.config.logs.minIdleTimeout) :
    (reading pod pending (some c)).disconnected c time = reading pod pending none := if_pos h

theorem disconnected_cut (c : LogCursor) (time : Nat)
    (h : pod.config.logs.minIdleTimeout ≤ time - c.lastActivity) :
    (reading pod pending (some c)).disconnected c time =
      reading pod pending (some { c with
        stream := none, since := some ((time - c.lastActivity - 1000) / 1000) }) :=
  if_neg (Nat.not_lt.mpr h)

/-- An open stream yields all its lines, and then is taken for disconnected. -/
theorem drains_lines (since : Option Nat) (id : StreamId) (e : StreamEnd) (items : List String)
    (lines : List LogLine) (time : Nat) (s : LogServer) (hclock : s.clock = time)
    (hs : s.streams id = ⟨lines, e⟩)
    (rest : ∀ s' : LogServer, s'.clock = max (latest time lines) e.time → s'.logs = s.logs →
      s'.plan = s.plan → (surroundings pod).Drains LogLines.turn
        ((reading pod pending (some ⟨container, since, some id, latest time lines⟩)).disconnected
          ⟨container, since, some id, latest time lines⟩ s'.clock) s' items) :
    (surroundings pod).Drains LogLines.turn
      (reading pod pending (some ⟨container, since, some id, time⟩)) s
      (lines.map (·.text) ++ items) := by
  induction lines generalizing s time with
  | nil =>
    apply Surroundings.Drains.again (hold_end pod pending container since time id e s hs)
    subst hclock
    exact rest { s with clock := max s.clock e.time } rfl rfl rfl
  | cons x lines ih =>
    have here := hold_line pod pending container since time id x lines e s hs
    rw [hclock] at here
    apply Surroundings.Drains.item here
    apply ih
    · rfl
    · simp [LogServer.setStream]
    · exact rest

/-- A cursor without a stream opens one, which yields its lines until its planned end. -/
theorem drains_opened (since : Option Nat) (a : Nat) (e : StreamEnd) (later : List StreamEnd)
    (items : List String) (s : LogServer) (hplan : s.plan = e :: later) (lines : List LogLine)
    (hlines : lines = (s.logs container).filter fun x =>
      start since s.clock ≤ x.time ∧ x.time ≤ e.time)
    (rest : ∀ (id : StreamId) (s' : LogServer), s'.clock = max (latest s.clock lines) e.time →
      s'.logs = s.logs → s'.plan = later → (surroundings pod).Drains LogLines.turn
        ((reading pod pending
            (some ⟨container, since, some id, latest s.clock lines⟩)).disconnected
          ⟨container, since, some id, latest s.clock lines⟩ s'.clock) s' items) :
    (surroundings pod).Drains LogLines.turn
      (reading pod pending (some ⟨container, since, none, a⟩)) s
      (lines.map (·.text) ++ items) := by
  apply Surroundings.Drains.again (hold_open pod pending container since a s)
  have hfollow :
      (s.follow ((reading pod pending none).request pod.name ⟨container, since, none, a⟩)).2 =
        ({ s with plan := later }.openStream ⟨lines, e⟩).2 := by
    simp only [LogServer.follow, hplan, container_request, sinceOf_request, List.headD_cons,
      List.tail_cons, hlines]
  rw [hfollow]
  apply drains_lines pod pending container since s.opened e items lines s.clock
  · rfl
  · simp [LogServer.openStream, LogServer.setStream]
  · exact rest s.opened

/-- The log of one container is yielded from the place of the cursor to its end. -/
theorem drains_served {log : List LogLine} {opened closed : Nat} {ends : List StreamEnd}
    (served : Served pod.config.logs.minIdleTimeout log opened ends closed)
    (sorted : log.Pairwise fun x y => x.time ≤ y.time) (later : List StreamEnd)
    (items : List String) (since : Option Nat) (a : Nat) (s : LogServer)
    (hclock : s.clock = opened) (hlog : s.logs container = log) (hplan : s.plan = ends ++ later)
    (rest : ∀ s' : LogServer, s'.clock = closed → s'.logs = s.logs → s'.plan = later →
      (surroundings pod).Drains LogLines.turn (reading pod pending none) s' items) :
    (surroundings pod).Drains LogLines.turn
      (reading pod pending (some ⟨container, since, none, a⟩)) s
      ((log.filter fun x => start since opened ≤ x.time).map (·.text) ++ items) := by
  -- A cut leaves the cursor at another place, so its place is arbitrary in the induction.
  induction served generalizing since a s with
  | @closed opened e after complete soon =>
    subst hclock hlog
    have hall : (s.logs container).filter (fun x => start since s.clock ≤ x.time) =
        (s.logs container).filter fun x => start since s.clock ≤ x.time ∧ x.time ≤ e.time := by
      apply List.filter_congr
      intro x hx
      simp only [complete x hx, and_true]
    have hlast := latest_filter (start since s.clock) s.clock (fun _ => true) (s.logs container)
      (start_le since s.clock)
    simp only [and_true, List.filter_true] at hlast
    have hend : latest s.clock (s.logs container) ≤ e.time :=
      (latest_le_iff _ _ _).mpr ⟨after, complete⟩
    apply drains_opened pod pending container since a e later items s hplan _ hall
    intro id s' hs' hlogs hlater
    rw [hlast] at hs' ⊢
    have hs'' : s'.clock = e.time := by omega
    rw [disconnected_done pod pending _ _ (by rw [hs'']; dsimp only; omega)]
    exact rest s' hs'' hlogs hlater
  | @cut opened closed e ends silent apart served ih =>
    subst hclock hlog
    have hopened := ((latest_le_iff s.clock _ _).mp (Nat.le_refl
      (latest s.clock ((s.logs container).filter fun x => x.time ≤ e.time)))).1
    have hlast := latest_filter (start since s.clock) s.clock (fun x => x.time ≤ e.time)
      (s.logs container) (start_le since s.clock)
    simp only [decide_eq_true_eq] at hlast
    rw [filter_split _ e.time _ sorted (Nat.le_trans (start_le since s.clock) (by omega)),
      List.map_append, List.append_assoc]
    apply drains_opened pod pending container since a e (ends ++ later) _ s hplan _ rfl
    intro id s' hs' hlogs hlater
    rw [hlast] at hs' ⊢
    have hs'' : s'.clock = e.time := by omega
    rw [hs'', disconnected_cut pod pending _ _ (by dsimp only; omega),
      filter_resumed s.clock e.time _ (by omega) apart]
    apply ih _ _ s' hs'' (by rw [hlogs]) hlater
    intro v hv hvlogs hvplan
    exact rest v hv (hvlogs.trans hlogs) hvplan

/-- The logs of the containers are yielded one after the other. -/
theorem drains_scheduled {logs : Option String → List LogLine} {containers : List (Option String)}
    {opened : Nat} {plan : List StreamEnd}
    (scheduled : Scheduled pod.config.logs.minIdleTimeout logs containers opened plan)
    (sorted : ∀ c, (logs c).Pairwise fun x y => x.time ≤ y.time) (s : LogServer)
    (hclock : s.clock = opened) (hlogs : s.logs = logs) (hplan : s.plan = plan) :
    (surroundings pod).Drains LogLines.turn (reading pod containers none) s
      (containers.flatMap fun c => (logs c).map (·.text)) := by
  induction scheduled generalizing s with
  | done => exact .ended (hold_done pod s)
  | @next c containers opened closed ends later here _ ih =>
    apply Surroundings.Drains.again (hold_next pod containers c s)
    have hwhole : (logs c).filter (fun x => start none opened ≤ x.time) = logs c :=
      List.filter_eq_self.mpr fun x _ => decide_eq_true (Nat.zero_le x.time)
    rw [List.flatMap_cons, ← hwhole]
    apply drains_served pod containers c here (sorted c) later _ none s.clock s hclock
      (by rw [hlogs]) hplan
    intro s' hclosed hlogs' hlater
    exact ih s' hclosed (hlogs'.trans hlogs) hlater

end Draining

/-- Draining the lines of a started pod gives the lines of its containers, one container after the
other, each of them once and in the order of the log. No line is lost and none is repeated, whatever
silent streams the server cuts. -/
theorem drains_iff_lines (pod : StartedPod) (containers : List String)
    (logs : Option String → List LogLine)
    (sorted : ∀ c, (logs c).Pairwise fun x y => x.time ≤ y.time)
    (time : Nat) (plan : List StreamEnd)
    (scheduled :
      Scheduled pod.config.logs.minIdleTimeout logs (logSources containers) time plan)
    (items : List String) :
    (surroundings pod).Drains LogLines.turn (PodLogs.stream ⟨pod.config, pod.name, containers⟩)
        { clock := time, logs := logs, plan := plan } items ↔
      items = (logSources containers).flatMap fun c => (logs c).map (·.text) := by
  have hall : (surroundings pod).Drains LogLines.turn
      (PodLogs.stream ⟨pod.config, pod.name, containers⟩)
      { clock := time, logs := logs, plan := plan }
      ((logSources containers).flatMap fun c => (logs c).map (·.text)) := by
    apply drains_stream
    intro s hclock hlogs hplan
    exact drains_scheduled pod scheduled sorted s hclock hlogs hplan
  constructor
  · intro h
    exact h.unique hall
  · intro h
    rw [h]
    exact hall

/-! A pod whose log is cut after a minute of silence, between its two lines. -/

def runningPod : StartedPod where
  config := { apiUrl := "https://api.example.test", «namespace» := "ns" }
  name := "pod"
  notice := "\x7b\"type\":\"ADDED\",\"object\":\x7b\x7d\x7d"
  document := ⟨200, "\x7b\"status\":\x7b\"phase\":\"Running\"\x7d\x7d"⟩
  snapshot := {
    kind := "Pod"
    name := ""
    conditions := [⟨.unknown, "Running", "", none⟩]
    children := []
    podReference := none
    steps := []
    results := []
    labels := []
    annotations := []
    raw := .object [("status", .object [("phase", .text "Running")])] }
  announced := by decide +kernel
  shown := by decide +kernel
  started := by decide

def silentLog : List LogLine := [⟨1000, "before"⟩, ⟨70000, "after"⟩]

theorem drains_iff_lines_silent :
    Scheduled 60000 (fun _ => silentLog) [none] 0
        [⟨65000, some "reset by peer"⟩, ⟨71000, none⟩] ∧
      (surroundings runningPod).Drains LogLines.turn
        (PodLogs.stream ⟨runningPod.config, "pod", []⟩)
        { clock := 0, logs := fun _ => silentLog,
          plan := [⟨65000, some "reset by peer"⟩, ⟨71000, none⟩] } ["before", "after"] := by
  have served : Served 60000 silentLog 0 [⟨65000, some "reset by peer"⟩, ⟨71000, none⟩] 71000 :=
    .cut (by decide) (by decide) (.closed (by decide) (by decide) (by decide))
  have scheduled : Scheduled 60000 (fun _ => silentLog) [none] 0
      [⟨65000, some "reset by peer"⟩, ⟨71000, none⟩] :=
    @Scheduled.next 60000 (fun _ => silentLog) none [] 0 71000 [_, _] [] served .done
  exact ⟨scheduled, (drains_iff_lines runningPod [] (fun _ => silentLog)
    (fun _ => by decide) 0 _ scheduled _).mpr rfl⟩

end PipelineObserver.LogServer
