import PipelineObserver.Proofs.Logs.Following
/-!
From where the log of a container is asked for again. Only the rest of a log is asked for if a
stream of it was opened before, but also if no stream could be opened for a long time:
`offset_after_stream_or_hang`.
-/
namespace PipelineObserver

namespace LogAttempt

def IsOpened (a : LogAttempt) : Prop := ∃ id lines stop, a.fate = .opened id lines stop

/-- The request hung for a long time, and then the network failed. -/
def Hung (minIdle : Nat) (a : LogAttempt) : Prop :=
  ∃ time e, a.fate = .refused time e ∧ e.isTransient = true ∧ minIdle ≤ time - a.time

theorem isOpened_or_hung {a : LogAttempt} {minIdle idle : Nat} (h : a.idle? = some idle)
    (long : minIdle ≤ idle) : a.IsOpened ∨ a.Hung minIdle := by
  obtain ⟨since, time, fate⟩ := a
  cases fate with
  | opened id lines stop => exact .inl ⟨id, lines, stop, rfl⟩
  | refused later e =>
    -- Nothing was read, so the silence began with the request.
    have hidle : (if e.isTransient then some (later - time) else none) = some idle := h
    cases he : e.isTransient with
    | true =>
      rw [he, if_pos rfl, Option.some.injEq] at hidle
      exact .inr ⟨later, e, rfl, he, hidle ▸ long⟩
    | false => simp [he] at hidle

end LogAttempt

namespace LogLines

open LogReading

/-- The lines of which nothing was asked yet. -/
inductive Fresh : Config → LogLines → Prop
  | pod (l : PodLogs) : Fresh l.config l.stream
  | taskRun (l : TaskRunLogs) : Fresh l.config l.stream

variable {config : Config} {l s : LogLines} {happened : Course}

theorem opened_of_run (fresh : Fresh config l) (run : Run turn l happened s) :
    Shut happened s ∨ ∃ pod sources gating readings calls,
      Opened config pod sources happened gating readings calls s := by
  cases fresh with
  | pod l =>
    rcases opened_of_pod_run l run with hshut | ⟨gating, _, readings, calls, _, h⟩
    · exact .inl hshut
    · exact .inr ⟨_, _, gating, readings, calls, h⟩
  | taskRun l =>
    rcases opened_of_taskRun_run l run with hshut | ⟨first, second, _, _, _, readings, calls, _, _,
      _, h⟩
    · exact .inl hshut
    · exact .inr ⟨_, _, first ++ second, readings, calls, h⟩

/-- The requests for logs are those of some readings. One that asks only for the rest of a log comes
after another one for the same source; if no stream of it has been opened, then all those before it
hung for a long time. -/
structure OffsetsAccounted (config : Config) (pod : String) (happened gating : Course)
    (readings : List LogReading) (calls : Nat) : Prop where
  split : happened = gating ++ courseOf config pod readings calls
  requests : logRequests happened = readings.flatMap fun r =>
    r.attempts.map fun a => config.followRequest pod r.source a.since
  offsets : ∀ r ∈ readings, ∀ before a later, r.attempts = before ++ a :: later → a.since ≠ none →
    (∃ b ∈ before, b.IsOpened) ∨ before ≠ [] ∧ ∀ b ∈ before, b.Hung config.logs.minIdleTimeout

theorem offset_after_stream_or_hang (fresh : Fresh config l) (run : Run turn l happened s) :
    ∃ pod gating readings calls, OffsetsAccounted config pod happened gating readings calls := by
  rcases opened_of_run fresh run with hshut | ⟨pod, sources, gating, readings, calls, h⟩
  · have hsplit : happened = happened ++ courseOf config "" [] 0 := (List.append_nil _).symm
    exact ⟨"", happened, [], 0, hsplit, hshut.unasked, by simp⟩
  · refine ⟨pod, gating, readings, calls, h.split, h.requests, ?_⟩
    intro r hr before a later split hsince
    have hresumed := h.account.place.isContinued r hr before a later split
    by_cases hopened : ∃ b ∈ before, b.IsOpened
    · exact .inl hopened
    · refine .inr ⟨fun h => hsince ((since_eq_none_iff hresumed).mpr h), fun b hb => ?_⟩
      obtain ⟨idle, hidle, hlong⟩ := long_of_resumed hresumed b hb
      rcases LogAttempt.isOpened_or_hung hidle hlong with h | h
      · exact absurd ⟨b, hb, h⟩ hopened
      · exact h

/-! The first request for the log of a container hangs for a minute and a half. -/

def hangingPod : PodLogs := ⟨LogServer.runningPod.config, "pod", ["main"]⟩

def hangingGating : Course :=
  hangingPod.gateway.passing 0 LogServer.runningPod.notice LogServer.runningPod.document

def hangingReadings : List LogReading :=
  [⟨some "main", 0, [⟨none, 0, .refused 90000 (.connection "timed out")⟩,
    ⟨some 89, 90000, .opened 1 [] none⟩]⟩]

def hanging (since : Option Nat) (stream : Option StreamId) (lastActivity : Nat) : LogLines where
  config := hangingPod.config
  gate := .opened "pod"
  cursor := some ⟨some "main", since, stream, lastActivity⟩

theorem run_hanging : Run turn hangingPod.stream
    (hangingGating ++ courseOf hangingPod.config "pod" hangingReadings 0)
    (hanging (some 89) (some 1) 90000) := by
  have hstarted := (StartWait.started_iff _).mp LogServer.runningPod.started
  have hgate := Gateway.run_passing hangingPod.guards 0 LogServer.runningPod.announced
    LogServer.runningPod.shown hstarted (fun _ => hangingPod.gateway_next _)
  have htaken : Step (reading hangingPod.config "pod" [some "main"]) _
      (.again (hanging none none 0)) := .reads rfl rfl (.taken 0 rfl rfl)
  have hhung : Step (hanging none none 0) _ (.again (hanging (some 89) none 0)) :=
    .reads rfl rfl (.refused (c := ⟨some "main", none, none, 0⟩) 0 (.connection "timed out") 90000
      rfl rfl)
  have hopened : Step (hanging (some 89) none 0) _ (.again (hanging (some 89) (some 1) 90000)) :=
    .reads rfl rfl (.opened (c := ⟨some "main", some 89, none, 0⟩) 90000 1 rfl rfl)
  exact hgate.trans (.again htaken.follows (.again hhung.follows
    (.again hopened.follows (.refl _))))

/-- The second request asks for the last 89 seconds of a log that was never read. -/
theorem offset_before_any_stream : ¬ ∀ (pod : PodLogs) (happened : Course) (s : LogLines),
    Run turn pod.stream happened s → ∀ before r answer later,
      exchanges happened = before ++ ⟨.openStream r, answer⟩ :: later → r.isForLog = true →
      r.queryValue? "sinceSeconds" ≠ none →
        ∃ earlier id, ⟨.openStream earlier, .ok id⟩ ∈ before ∧ earlier.isForLog = true := by
  intro h
  let request := hangingPod.config.followRequest "pod" (some "main")
  obtain ⟨earlier, id, hmem, hlog⟩ := h hangingPod _ _ run_hanging
    (exchanges hangingGating ++ [⟨.now, 0⟩, ⟨.now, 0⟩,
      ⟨.openStream (request none), .error (.connection "timed out")⟩, ⟨.now, 90000⟩, ⟨.now, 90000⟩])
    (request (some 89)) (.ok 1) [] rfl (Config.followRequest_isForLog ..) (by decide)
  -- The only stream that was opened before is that of the watch.
  have hwatch : earlier = hangingPod.gateway.tracker.watch.request ∧ id = 0 := by
    simpa [exchanges, hangingGating, Gateway.passing, Tracker.lookedUp] using hmem
  rw [hwatch.1, Tracker.watch_request_not_isForLog] at hlog
  cases hlog

theorem offset_after_stream_or_hang_hanging :
    Run turn hangingPod.stream (hangingGating ++ courseOf hangingPod.config "pod" hangingReadings 0)
        (hanging (some 89) (some 1) 90000) ∧
      ∃ pod gating readings calls, OffsetsAccounted hangingPod.config pod
        (hangingGating ++ courseOf hangingPod.config "pod" hangingReadings 0) gating readings
        calls :=
  ⟨run_hanging, offset_after_stream_or_hang (.pod hangingPod) run_hanging⟩

end LogLines

end PipelineObserver
