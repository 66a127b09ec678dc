import PipelineObserver.Proofs.Logs.Attempts
import PipelineObserver.Proofs.Logs.Delivery
import PipelineObserver.Proofs.Logs.Gates
/-!
The lines of a task run from the beginning: they pass its gate, then that of its pod, and only then
ask for logs, in a block of requests for each source: `reads_started_pod`.
-/
namespace PipelineObserver

/-- The gate of a pod. -/
def PodLogs.gateway (l : PodLogs) : Gateway where
  tracker := ⟨l.config, .pod, l.pod⟩
  shut w := { l.stream with gate := .pod w }
  next _ w := some { l.stream with gate := .opened w.channel.target.name }

/-- The gate of a task run. Behind it is that of the pod which the snapshot names. -/
def TaskRunLogs.gateway (l : TaskRunLogs) : Gateway where
  tracker := l.tracker
  shut w := { l.stream with gate := .taskRun w }
  next s _ := s.podReference.map fun pod => PodLogs.stream ⟨l.config, pod, s.stepContainers⟩

theorem PodLogs.guards (l : PodLogs) : l.gateway.Guards := by
  intro w
  rw [LogLines.turn_pod (w := w) rfl rfl]
  refine congrArg w.turn.bind (funext fun o => ?_)
  rcases o with w' | ⟨e | _ | s, w'⟩ <;> rfl

theorem TaskRunLogs.guards (l : TaskRunLogs) : l.gateway.Guards := by
  intro w
  rw [LogLines.turn_taskRun (w := w) rfl rfl]
  refine congrArg w.turn.bind (funext fun o => ?_)
  rcases o with w' | ⟨e | _ | s, w'⟩
  · rfl
  · rfl
  · rfl
  · cases hpod : s.podReference with
    | none => simp [LogLines.afterTaskRun, Gateway.after, gateway, hpod]
    | some pod => simp [LogLines.afterTaskRun, Gateway.after, gateway, PodLogs.stream, stream, hpod]

theorem PodLogs.gateway_next (l : PodLogs) (s : Snapshot) {w : StartWait}
    (h : w.channel.target = l.gateway.tracker) :
    l.gateway.next s w = some (LogLines.reading l.config l.pod (logSources l.containers)) := by
  simp only [gateway, h]
  rfl

/-! ### No log is asked for at a gate -/

theorem Config.followRequest_isForLog (c : Config) (pod : String) (source : Option String)
    (since : Option Nat) : (c.followRequest pod source since).isForLog = true := by
  rw [Request.isForLog, List.isSuffixOf_iff_suffix]
  exact ⟨(c.resourcePath .pod pod).toList, String.toList_append.symm⟩

theorem Tracker.watch_request_not_isForLog (t : Tracker) : t.watch.request.isForLog = false := by
  rw [Bool.eq_false_iff]
  intro h
  rw [Request.isForLog, List.isSuffixOf_iff_suffix] at h
  obtain ⟨before, hbefore⟩ := h
  -- The path of a watch ends in a slash.
  have hpath : ∃ front, t.watch.request.path.toList = front ++ "/".toList :=
    ⟨_, String.toList_append⟩
  obtain ⟨front, hfront⟩ := hpath
  have hlast := congrArg List.getLast? (hbefore.trans hfront)
  simp at hlast

theorem logRequests_of_asks {t : Tracker} {happened : LogLines.Course}
    (own : ∀ x ∈ exchanges happened, t.Asks x.question) : LogLines.logRequests happened = [] := by
  rw [LogLines.logRequests, List.filterMap_eq_nil_iff]
  rintro ⟨q, answer⟩ hx
  cases own _ hx with
  | watch => exact if_neg (by simp [t.watch_request_not_isForLog])
  | event | pause | lookUp => rfl

/-- A gate concludes that there is nothing to read: the wait for a start ends without one, or the
task run has started but names no pod. -/
inductive LogGate.Refuses : LogGate → List Exchange → Prop
  | taskRun {w w' : StartWait} {t : List Exchange} (h : w.turn.Follows t (.yield (.ok none) w')) :
      Refuses (.taskRun w) t
  | podless {w w' : StartWait} {s : Snapshot} {t : List Exchange}
      (h : w.turn.Follows t (.yield (.ok (some s)) w')) (podless : s.podReference = none) :
      Refuses (.taskRun w) t
  | pod {w w' : StartWait} {t : List Exchange} (h : w.turn.Follows t (.yield (.ok none) w')) :
      Refuses (.pod w) t

namespace LogLines

/-- The gates have not been passed, and no log has been asked for. -/
structure Shut (happened : Course) (l : LogLines) : Prop where
  gate : ∀ pod, l.gate ≠ .opened pod
  unasked : logRequests happened = []
  quiet : toldLines happened = []

/-- The gates have been passed, and the logs of a pod are read. -/
structure Opened (config : Config) (pod : String) (sources : List (Option String))
    (happened gating : Course) (readings : List LogReading) (calls : Nat) (l : LogLines) :
    Prop where
  split : happened = gating ++ courseOf config pod readings calls
  unasked : logRequests gating = []
  quiet : toldLines gating = []
  account : Account config pod sources readings calls l

theorem shut_of_holds {g : Gateway} {happened : Course} {l : LogLines} (h : g.Holds happened l)
    (shut : ∀ w pod, (g.shut w).gate ≠ .opened pod) : Shut happened l := by
  cases h with
  | @waiting w h quiet => exact ⟨shut w, logRequests_of_asks h.own, quiet⟩
  | @refused w own quiet => exact ⟨shut w, logRequests_of_asks own, quiet⟩

variable {happened : Course} {s : LogLines}

theorem opened_of_pod_run (l : PodLogs) (run : Run turn l.stream happened s) :
    Shut happened s ∨ ∃ gating snapshot readings calls,
      StartWait.Passed ⟨l.config, .pod, l.pod⟩ (exchanges gating) snapshot ∧
      Opened l.config l.pod (logSources l.containers) happened gating readings calls s := by
  rcases Gateway.run_at_gate l.guards run with h | ⟨gating, rest, snapshot, next, h⟩
  · exact .inl (shut_of_holds h (fun _ _ => nofun))
  · obtain ⟨w, htarget, hnext⟩ := h.goesOn
    obtain rfl : reading l.config l.pod (logSources l.containers) = next :=
      Option.some.inj ((l.gateway_next snapshot htarget).symm.trans hnext)
    obtain ⟨readings, calls, haccount, rfl⟩ := readings_of_run h.run
    exact .inr ⟨gating, snapshot, readings, calls, h.passed,
      ⟨h.split, logRequests_of_asks h.passed.own, h.quiet, haccount⟩⟩

theorem Shut.after {first rest : Course} (h : Shut rest s) (unasked : logRequests first = [])
    (quiet : toldLines first = []) : Shut (first ++ rest) s where
  gate := h.gate
  unasked := by rw [logRequests_append, unasked, h.unasked, List.nil_append]
  quiet := by rw [toldLines_append, quiet, h.quiet, List.nil_append]

theorem Opened.after {config : Config} {pod : String} {sources : List (Option String)}
    {first rest gating : Course} {readings : List LogReading} {calls : Nat}
    (h : Opened config pod sources rest gating readings calls s) (unasked : logRequests first = [])
    (quiet : toldLines first = []) :
    Opened config pod sources (first ++ rest) (first ++ gating) readings calls s where
  split := by rw [h.split, List.append_assoc]
  unasked := by rw [logRequests_append, unasked, h.unasked, List.nil_append]
  quiet := by rw [toldLines_append, quiet, h.quiet, List.nil_append]
  account := h.account

theorem opened_of_taskRun_run (l : TaskRunLogs) (run : Run turn l.stream happened s) :
    Shut happened s ∨ ∃ first second snapshot pod podSnapshot readings calls,
      StartWait.Passed l.tracker (exchanges first) snapshot ∧ snapshot.podReference = some pod ∧
      StartWait.Passed ⟨l.config, .pod, pod⟩ (exchanges second) podSnapshot ∧
      Opened l.config pod (logSources snapshot.stepContainers) happened (first ++ second) readings
        calls s := by
  rcases Gateway.run_at_gate l.guards run with h | ⟨first, rest, snapshot, next, h⟩
  · exact .inl (shut_of_holds h (fun _ _ => nofun))
  · have hunasked : logRequests first = [] := logRequests_of_asks h.passed.own
    obtain ⟨w, -, hnext⟩ := h.goesOn
    -- Behind the first gate the lines are those of the pod from their beginning.
    obtain ⟨pod, hpod, rfl⟩ := Option.map_eq_some_iff.mp hnext
    rw [h.split]
    rcases opened_of_pod_run _ h.run with hshut | ⟨second, podSnapshot, readings, calls, hpassed,
      hopened⟩
    · exact .inl (hshut.after hunasked h.quiet)
    · exact .inr ⟨first, second, snapshot, pod, podSnapshot, readings, calls, h.passed, hpod,
        hpassed, hopened.after hunasked h.quiet⟩

/-! ### What is asked for and told while the logs are read -/

variable {config : Config} {pod : String} {readings : List LogReading} {calls : Nat}

theorem logRequests_fate (f : LogFate) {r : Request} (h : r.isForLog = true) :
    logRequests (f.history r) = [r] := by
  cases f with
  | refused time e => simp [LogFate.history, logRequests, exchanges, h]
  | opened id lines stop =>
    cases stop <;>
      simp [LogFate.history, logRequests, exchanges, List.filterMap_flatMap, h]

theorem toldLines_fate (f : LogFate) (r : Request) :
    toldLines (f.history r) = f.lines.map (·.1) := by
  cases f with
  | refused time e => simp [LogFate.history, LogFate.lines, toldLines, yields]
  | opened id lines stop =>
    cases stop <;>
      simp [LogFate.history, LogFate.lines, toldLines, yields, List.filterMap_flatMap,
        ← List.map_eq_flatMap]

theorem deliveredLines_fate (f : LogFate) (r : Request) :
    deliveredLines (exchanges (f.history r)) = f.lines.map (·.1) := by
  cases f with
  | refused time e => simp [LogFate.history, LogFate.lines, deliveredLines, exchanges]
  | opened id lines stop =>
    rcases stop with _ | ⟨time, _ | e⟩ <;>
      simp [LogFate.history, LogFate.lines, deliveredLines, exchanges, StreamStop.answer,
        List.filterMap_flatMap, ← List.map_eq_flatMap]

/-- What is collected from a history, part after part, comes from the fates of its requests if the
times and the outcomes of the calls give nothing. -/
theorem collected_courseOf {β : Type} (collect : Course → List β)
    (append : ∀ x y, collect (x ++ y) = collect x ++ collect y)
    (now : ∀ time, collect [.exchanged ⟨.now, time⟩] = [])
    (failed : ∀ e, collect [.yielded (.error e)] = [])
    (ended : collect [.yielded (.ok none)] = []) :
    collect (courseOf config pod readings calls) =
      readings.flatMap fun r => r.attempts.flatMap fun a =>
        collect (a.fate.history (config.followRequest pod r.source a.since)) := by
  have hnil : collect [] = [] := List.self_eq_append_right.mp (append [] [])
  -- From the parts of a history up to the whole.
  have hflat {γ : Type} (f : γ → Course) (xs : List γ) :
      collect (xs.flatMap f) = xs.flatMap fun x => collect (f x) := by
    induction xs with
    | nil => exact hnil
    | cons x xs ih => rw [List.flatMap_cons, append, ih, List.flatMap_cons]
  have hend (calls : Nat) : collect (endCourse calls) = [] := by
    induction calls with
    | zero => exact hnil
    | succ calls ih =>
      rw [endCourse, List.replicate_succ', append, ended, List.append_nil]
      exact ih
  have hattempt (request : Option Nat → Request) (a : LogAttempt) :
      collect (a.history request) = collect (a.fate.history (request a.since)) := by
    have hfailed : collect (a.failure?.toList.map fun e => .yielded (.error e)) = [] := by
      cases a.failure? with
      | none => exact hnil
      | some e => exact failed e
    rw [LogAttempt.history, append, hfailed, List.append_nil, ← List.singleton_append, append, now,
      List.nil_append]
  have hreading (r : LogReading) : collect (r.history config pod) =
      r.attempts.flatMap fun a =>
        collect (a.fate.history (config.followRequest pod r.source a.since)) := by
    rw [LogReading.history, ← List.singleton_append, append, now, List.nil_append, hflat]
    simp only [hattempt]
  rw [courseOf, append, hend, List.append_nil, hflat]
  simp only [hreading]

theorem logRequests_courseOf : logRequests (courseOf config pod readings calls) =
    readings.flatMap fun r =>
      r.attempts.map fun a => config.followRequest pod r.source a.since := by
  rw [collected_courseOf logRequests logRequests_append (fun _ => rfl) (fun _ => rfl) rfl]
  simp only [logRequests_fate _ (config.followRequest_isForLog ..), ← List.map_eq_flatMap]

theorem toldLines_courseOf : toldLines (courseOf config pod readings calls) =
    readings.flatMap fun r => r.attempts.flatMap fun a => a.fate.lines.map (·.1) := by
  rw [collected_courseOf toldLines toldLines_append (fun _ => rfl) (fun _ => rfl) rfl]
  simp only [toldLines_fate]

theorem toldLines_eq_deliveredLines : toldLines (courseOf config pod readings calls) =
    deliveredLines (exchanges (courseOf config pod readings calls)) := by
  have hdelivered : deliveredLines (exchanges (courseOf config pod readings calls)) = _ :=
    collected_courseOf (fun happened => deliveredLines (exchanges happened))
      (fun x y => by rw [exchanges_append, deliveredLines_append]) (fun _ => rfl) (fun _ => rfl) rfl
  simp only [deliveredLines_fate] at hdelivered
  rw [hdelivered, toldLines_courseOf]

theorem Opened.requests {sources : List (Option String)} {gating : Course}
    (h : Opened config pod sources happened gating readings calls s) :
    logRequests happened = readings.flatMap fun r =>
      r.attempts.map fun a => config.followRequest pod r.source a.since := by
  rw [h.split, logRequests_append, h.unasked, List.nil_append, logRequests_courseOf]

/-! ### The lines of a task run -/

theorem follows_refused_gate {l : LogLines} {t : List Exchange} (more : l.finished = false)
    (h : l.gate.Refuses t) : l.turn.Follows t (.yield (.ok none) l.ended) := by
  apply Step.follows
  cases hgate : l.gate with
  | taskRun w =>
    rw [hgate] at h
    cases h with
    | taskRun h => exact .taskRun more hgate h
    | @podless _ w' s _ h podless =>
      have hafter : l.afterTaskRun (.yield (.ok (some s)) w') = .yield (.ok none) l.ended := by
        simp only [afterTaskRun, podless]
      exact hafter ▸ .taskRun more hgate h
  | pod w =>
    rw [hgate] at h
    cases h with
    | pod h => exact .pod more hgate h
  | opened pod =>
    rw [hgate] at h
    cases h

/-- The sources are read one after the other. The whole log is asked for first, and then what is
left of it; the next source is taken only after a short silence. -/
structure InBlocks (minIdle : Nat) (sources : List (Option String)) (readings : List LogReading) :
    Prop where
  order : readings.map (·.source) <+: sources
  whole : ∀ r ∈ readings, ∀ before a later, r.attempts = before ++ a :: later →
    (a.since = none ↔ before = [])
  completed : ∀ earlier r next later, readings = earlier ++ r :: next :: later →
    ∃ before a idle, r.attempts = before ++ [a] ∧ a.idle? = some idle ∧ idle < minIdle

theorem Account.inBlocks {sources : List (Option String)}
    (h : Account config pod sources readings calls s) :
    InBlocks config.logs.minIdleTimeout sources readings where
  order := ⟨s.pending, h.sources⟩
  whole := fun r hr before a later split =>
    since_eq_none_iff (h.place.isContinued r hr before a later split)
  completed := fun earlier r next later split => by
    cases h.place.completed split with
    | intro _ hidle short => exact ⟨_, _, _, rfl, hidle, short⟩

/-- The end is told only after every source was read, or after a failure. -/
theorem Account.sources_of_calls {sources : List (Option String)}
    (h : Account config pod sources readings calls s) (called : 0 < calls) :
    readings.map (·.source) = sources ∨
      ∃ e, .yielded (.error e) ∈ courseOf config pod readings calls := by
  have hsources := h.sources
  cases h.place with
  | drained _ none_ _ => exact .inl (by rw [← hsources, none_, List.append_nil])
  | @failed _ _ _ _ _ a e _ _ _ failure _ =>
    refine .inr ⟨e, ?_⟩
    simp [courseOf, LogReading.history, LogAttempt.history, failure]
  | between | due | streaming => simp at called

end LogLines

/-- The lines of a task run after both gates, which were passed one after the other: a look-up of
the task run showed that it has started and named its pod, and a later look-up of that pod showed
that it has started. -/
structure TaskRunLogs.Reads (l : TaskRunLogs) (pod : String) (happened gating : LogLines.Course)
    (readings : List LogReading) (calls : Nat) (snapshot podSnapshot : Snapshot) : Prop where
  split : happened = gating ++ LogLines.courseOf l.config pod readings calls
  gates : ∃ first between answer podAnswer,
    exchanges gating = first ++ l.tracker.lookedUp answer ::
      (between ++ [Tracker.lookedUp ⟨l.config, .pod, pod⟩ podAnswer]) ∧
    answer.bind (Response.snapshot? .taskRun) = .ok (some snapshot) ∧
    podAnswer.bind (Response.snapshot? .pod) = .ok (some podSnapshot)
  started : StartWait.Started snapshot
  podReference : snapshot.podReference = some pod
  podStarted : StartWait.Started podSnapshot
  unasked : LogLines.logRequests gating = []
  requests : LogLines.logRequests happened = readings.flatMap fun r =>
    r.attempts.map fun a => l.config.followRequest pod r.source a.since
  inBlocks : LogLines.InBlocks l.config.logs.minIdleTimeout (logSources snapshot.stepContainers)
    readings
  ending : 0 < calls → readings.map (·.source) = logSources snapshot.stepContainers ∨
    ∃ e, .yielded (.error e) ∈ LogLines.courseOf l.config pod readings calls
  lines : LogLines.toldLines happened =
    LogLines.deliveredLines (exchanges (LogLines.courseOf l.config pod readings calls))

namespace LogLines

/-- Until both gates are passed, no log of a task run is asked for; if one of them concludes that
there is nothing to read, the lines are over. Behind the gates the logs of that very pod are read,
in blocks of requests in the order of the steps, and exactly the lines that they deliver are told. -/
theorem reads_started_pod (l : TaskRunLogs) {happened : Course} {s : LogLines}
    (run : Run turn l.stream happened s) :
    ((∀ pod, s.gate ≠ .opened pod) →
      logRequests happened = [] ∧ toldLines happened = [] ∧
        (s.finished = true → Silent turn s) ∧
        ∀ t, s.finished = false → s.gate.Refuses t →
          s.turn.Follows t (.yield (.ok none) s.ended) ∧ Silent turn s.ended) ∧
    ∀ pod, s.gate = .opened pod → ∃ gating readings calls snapshot podSnapshot,
      l.Reads pod happened gating readings calls snapshot podSnapshot := by
  rcases opened_of_taskRun_run l run with hshut | ⟨first, second, snapshot, pod, podSnapshot,
    readings, calls, hfirst, hpod, hsecond, h⟩
  · refine ⟨fun _ => ⟨hshut.unasked, hshut.quiet, silent_of_finished, fun t more refuses => ?_⟩,
      fun pod hopened => absurd hopened (hshut.gate pod)⟩
    exact ⟨follows_refused_gate more refuses, silent_of_finished rfl⟩
  · refine ⟨fun hshut => absurd h.account.gate (hshut pod), fun pod' hopened => ?_⟩
    obtain rfl : pod = pod' := LogGate.opened.inj (h.account.gate.symm.trans hopened)
    obtain ⟨before, answer, hbefore, hshown⟩ := hfirst.last
    obtain ⟨between, podAnswer, hbetween, hpodShown⟩ := hsecond.last
    refine ⟨first ++ second, readings, calls, snapshot, podSnapshot, h.split,
      ⟨before, between, answer, podAnswer, ?_, hshown, hpodShown⟩, hfirst.started, hpod,
      hsecond.started, h.unasked, h.requests, h.account.inBlocks, h.account.sources_of_calls, ?_⟩
    · rw [exchanges_append, hbefore, hbetween, List.append_assoc]
      rfl
    · rw [h.split, toldLines_append, h.quiet, List.nil_append, toldLines_eq_deliveredLines]

/-! A task run whose pod is read up to its first line. -/

def hosted : TaskRunLogs := ⟨LogServer.runningPod.config, "build"⟩

def hostedDocument : Response := ⟨200,
  "\x7b\"status\":\x7b\"conditions\":[\x7b\"status\":\"Unknown\",\"reason\":\"Running\"\x7d]," ++
    "\"podName\":\"pod\",\"steps\":[\x7b\"name\":\"compile\"\x7d]\x7d\x7d"⟩

def hostedSnapshot : Snapshot where
  kind := "TaskRun"
  name := ""
  conditions := [⟨.unknown, "Running", "", none⟩]
  children := []
  podReference := some "pod"
  steps := [⟨"compile", "step-compile", none⟩]
  results := []
  labels := []
  annotations := []
  raw := .object [("status", .object [
    ("conditions", .array [.object [("reason", .text "Running"), ("status", .text "Unknown")]]),
    ("podName", .text "pod"), ("steps", .array [.object [("name", .text "compile")]])])]

theorem hosted_shown : hostedDocument.snapshot? .taskRun = .ok (some hostedSnapshot) := by
  decide +kernel

def hostedPod : PodLogs := ⟨hosted.config, "pod", ["step-compile"]⟩

/-- The lines of the task run at a place in the log of its only step. -/
def compiling (stream : Option StreamId) (lastActivity : Nat) : LogLines where
  config := hosted.config
  gate := .opened "pod"
  cursor := some ⟨some "step-compile", none, stream, lastActivity⟩

def hostedGating : Course :=
  hosted.gateway.passing 0 LogServer.runningPod.notice hostedDocument ++
    hostedPod.gateway.passing 1 LogServer.runningPod.notice LogServer.runningPod.document

def hostedReadings : List LogReading :=
  [⟨some "step-compile", 0, [⟨none, 0, .opened 2 [("compiling", 5)] none⟩]⟩]

theorem run_hosted_gates : Run turn hosted.stream hostedGating
    (reading hosted.config "pod" [some "step-compile"]) := by
  have htaskRun : Run turn hosted.stream _ hostedPod.stream :=
    Gateway.run_passing hosted.guards 0 LogServer.runningPod.announced hosted_shown
      ⟨_, rfl, .inr (.inr ⟨rfl, rfl⟩)⟩ (fun _ _ => rfl)
  have hstarted := (StartWait.started_iff _).mp LogServer.runningPod.started
  have hpod := Gateway.run_passing hostedPod.guards 1 LogServer.runningPod.announced
    LogServer.runningPod.shown hstarted (fun _ => hostedPod.gateway_next _)
  exact htaskRun.trans hpod

theorem hosted_taken : Step (reading hosted.config "pod" [some "step-compile"]) [⟨.now, (0 : Nat)⟩]
    (.again (compiling none 0)) := .reads rfl rfl (.taken 0 rfl rfl)

theorem hosted_opened : Step (compiling none 0) [⟨.now, (0 : Nat)⟩, ⟨.openStream
      ((compiling none 0).request "pod" ⟨some "step-compile", none, none, 0⟩), .ok 2⟩]
    (.again (compiling (some 2) 0)) :=
  .reads rfl rfl (.opened (c := ⟨some "step-compile", none, none, 0⟩) 0 2 rfl rfl)

theorem hosted_line : Step (compiling (some 2) 0)
    [⟨.readLine 2, .ok (some "compiling")⟩, ⟨.now, (5 : Nat)⟩]
    (.yield (.ok (some "compiling")) (compiling (some 2) 5)) :=
  .reads rfl rfl (.line (c := ⟨some "step-compile", none, some 2, 0⟩) "compiling" 5 rfl rfl)

theorem run_hosted : Run turn hosted.stream
    (hostedGating ++ courseOf hosted.config "pod" hostedReadings 0) (compiling (some 2) 5) :=
  run_hosted_gates.trans (.again hosted_taken.follows
    (.again hosted_opened.follows (.yield hosted_line.follows (.refl _))))

/-- The watch of the task run cannot be opened, and then the task run is not found. -/
def hostedGone : List Exchange :=
  [⟨.openStream hosted.tracker.watch.request, .error (.connection "refused")⟩,
    hosted.tracker.lookedUp (.ok ⟨404, ""⟩)]

theorem hosted_refused : hosted.stream.gate.Refuses hostedGone := by
  obtain ⟨w, hgone⟩ := StartWait.follows_gone hosted.tracker "refused" (r := ⟨404, ""⟩) rfl
  exact .taskRun hgone

/-- A task run that is gone ends its lines at once; one that is there is read to its first line. -/
theorem reads_started_pod_compiling :
    (hosted.stream.turn.Follows hostedGone (.yield (.ok none) hosted.stream.ended) ∧
      Silent turn hosted.stream.ended) ∧
    Run turn hosted.stream (hostedGating ++ courseOf hosted.config "pod" hostedReadings 0)
      (compiling (some 2) 5) ∧
    ∃ gating readings calls snapshot podSnapshot, hosted.Reads "pod"
      (hostedGating ++ courseOf hosted.config "pod" hostedReadings 0) gating readings calls
      snapshot podSnapshot := by
  obtain ⟨hshut, -⟩ := reads_started_pod hosted (.refl _)
  obtain ⟨-, -, -, hgone⟩ := hshut (fun _ => nofun)
  obtain ⟨-, hopened⟩ := reads_started_pod hosted run_hosted
  exact ⟨hgone _ rfl hosted_refused, run_hosted, hopened "pod" rfl⟩

end LogLines
end PipelineObserver
