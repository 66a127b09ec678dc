import PipelineObserver.Proofs.Logs.Server
import PipelineObserver.Proofs.Watch.Channel
/-!
Reading log lines in the surroundings of a `LogServer`: what each turn asks, and what comes of it.
-/
namespace PipelineObserver.LogServer

/-! ### What the server understands of a request -/

theorem path_request (l : LogLines) (name : String) (c : LogCursor) :
    (l.request name c).path = l.config.logPath name := by
  obtain ⟨container, since, stream, a⟩ := c
  cases container <;> cases since <;> rfl

theorem follow_request (l : LogLines) (name : String) (c : LogCursor) :
    (l.request name c).queryValue? "follow" = some "true" := by
  obtain ⟨container, since, stream, a⟩ := c
  cases container <;> cases since <;> rfl

theorem container_request (l : LogLines) (name : String) (c : LogCursor) :
    (l.request name c).queryValue? "container" = c.container := by
  obtain ⟨container, since, stream, a⟩ := c
  cases container <;> cases since <;>
    simp [LogLines.request, Request.queryValue?, Request.withQuery, Request.withHeader, Request.get]

theorem sinceOf_request (l : LogLines) (name : String) (c : LogCursor) :
    sinceOf (l.request name c) = c.since := by
  obtain ⟨container, since, stream, a⟩ := c
  cases container <;> cases since <;>
    simp [sinceOf, LogLines.request, Request.queryValue?, Request.withQuery, Request.withHeader,
      Request.get, Text.decimal?_toDigits]

variable (pod : StartedPod)

/-! ### The turns at an open gate -/

/-- The lines of a started pod once its gate is open. -/
def reading (pending : List (Option String)) (cursor : Option LogCursor) : LogLines where
  config := pod.config
  gate := .opened pod.name
  pending := pending
  cursor := cursor

variable (pending : List (Option String)) (container : Option String) (since : Option Nat) (a : Nat)

theorem hold_next (s : LogServer) :
    (surroundings pod).hold (reading pod (container :: pending) none).turn s =
      (.again (reading pod pending (some ⟨container, none, none, s.clock⟩)), s) := rfl

theorem hold_done (s : LogServer) :
    (surroundings pod).hold (reading pod [] none).turn s =
      (.yield (.ok none) (reading pod [] none).ended, s) := rfl

/-- Reading from an open stream asks for a line, and then for the time. -/
theorem turn_reading (id : StreamId) :
    (reading pod pending (some ⟨container, since, some id, a⟩)).turn =
      .ask (.readLine id) fun answer => .ask .now fun time =>
        .done (match answer with
          | .ok (some line) =>
            .yield (.ok (some line)) (reading pod pending (some ⟨container, since, some id, time⟩))
          | .ok none =>
            .again ((reading pod pending (some ⟨container, since, some id, a⟩)).disconnected
              ⟨container, since, some id, a⟩ time)
          | .error e =>
            (reading pod pending (some ⟨container, since, some id, a⟩)).interrupted
              ⟨container, since, some id, a⟩ e time) := by
  change Dialogue.ask _ _ = Dialogue.ask _ _
  congr 1
  funext answer
  rcases answer with e | _ | line <;> rfl

theorem hold_line (id : StreamId) (x : LogLine) (lines : List LogLine) (e : StreamEnd)
    (s : LogServer) (hs : s.streams id = ⟨x :: lines, e⟩) :
    (surroundings pod).hold (reading pod pending (some ⟨container, since, some id, a⟩)).turn s =
      (.yield (.ok (some x.text))
          (reading pod pending (some ⟨container, since, some id, max s.clock x.time⟩)),
        { s.setStream id ⟨lines, e⟩ with clock := max s.clock x.time }) := by
  have hread : (surroundings pod).answer (.readLine id) s =
      (.ok (some x.text), { s.setStream id ⟨lines, e⟩ with clock := max s.clock x.time }) := by
    simp only [surroundings, LogServer.readLine, hs]
  rw [turn_reading, Surroundings.hold_ask, hread]
  rfl

/-- However a stream ends, its end is taken for a disconnection. -/
theorem hold_end (id : StreamId) (e : StreamEnd) (s : LogServer) (hs : s.streams id = ⟨[], e⟩) :
    (surroundings pod).hold (reading pod pending (some ⟨container, since, some id, a⟩)).turn s =
      (.again ((reading pod pending (some ⟨container, since, some id, a⟩)).disconnected
          ⟨container, since, some id, a⟩ (max s.clock e.time)),
        { s with clock := max s.clock e.time }) := by
  have hread : (surroundings pod).answer (.readLine id) s =
      (e.answer, { s with clock := max s.clock e.time }) := by
    simp only [surroundings, LogServer.readLine, hs]
  rw [turn_reading, Surroundings.hold_ask, hread]
  obtain ⟨time, _ | detail⟩ := e <;> rfl

theorem answer_follow (l : LogLines) (hl : l.config = pod.config) (c : LogCursor) (s : LogServer) :
    (surroundings pod).answer (.openStream (l.request pod.name c)) s =
      (.ok s.opened, (s.follow (l.request pod.name c)).2) := by
  simp only [surroundings, path_request, follow_request, hl, and_self, ↓reduceIte]
  rfl

theorem hold_open (s : LogServer) :
    (surroundings pod).hold (reading pod pending (some ⟨container, since, none, a⟩)).turn s =
      (.again (reading pod pending (some ⟨container, since, some s.opened, s.clock⟩)),
        (s.follow ((reading pod pending none).request pod.name
          ⟨container, since, none, a⟩)).2) := by
  change (surroundings pod).hold (LogLines.openStream _ _ _) s = _
  have hnow : (surroundings pod).answer .now s = (s.clock, s) := rfl
  simp only [LogLines.openStream, Dialogue.now, Dialogue.openStream, Dialogue.question,
    Dialogue.bind_eq, Dialogue.bind_ask, Dialogue.bind_done, Surroundings.hold_ask, hnow]
  rw [answer_follow pod _ rfl]
  rfl

/-! ### The gate of a started pod -/

/-- The watch of the pod once it is connected. -/
def podWatch (id : StreamId) : WatchChannel where
  target := ⟨pod.config, .pod, pod.name⟩
  state := .streaming
  attempts := 1
  stream := some id

theorem hold_watch_connecting (s : LogServer) :
    (surroundings pod).hold (Tracker.watch ⟨pod.config, .pod, pod.name⟩).turn s =
      (.again (podWatch pod s.opened),
        (s.openStream ⟨[⟨s.clock, pod.notice⟩], ⟨s.clock, none⟩⟩).2) := by
  rw [WatchChannel.turn_connecting rfl]
  have hpath : (Tracker.watch ⟨pod.config, .pod, pod.name⟩).request.path =
      pod.config.watchPath .pod pod.name := rfl
  have hfollow : (Tracker.watch ⟨pod.config, .pod, pod.name⟩).request.queryValue? "follow" = none :=
    rfl
  have hopen : (surroundings pod).answer
      (.openStream (Tracker.watch ⟨pod.config, .pod, pod.name⟩).request) s =
        (.ok s.opened, (s.openStream ⟨[⟨s.clock, pod.notice⟩], ⟨s.clock, none⟩⟩).2) := by
    simp only [surroundings, hfollow, hpath, reduceCtorEq, and_false, ↓reduceIte]
    rfl
  rw [Surroundings.hold_ask, hopen]
  rfl

theorem hold_watch_streaming (id : StreamId) (e : StreamEnd) (s : LogServer)
    (hs : s.streams id = ⟨[⟨s.clock, pod.notice⟩], e⟩) :
    (surroundings pod).hold (podWatch pod id).turn s =
      (.yield (.ok (some (.snapshot pod.snapshot))) (podWatch pod id), s.setStream id ⟨[], e⟩) := by
  have hread : (surroundings pod).answer (.readLine id) s =
      (.ok (some pod.notice), s.setStream id ⟨[], e⟩) := by
    simp only [surroundings, LogServer.readLine, hs, Nat.max_self]
    rfl
  have hlook (v : LogServer) : (surroundings pod).answer
      (.send (.get (pod.config.resourcePath .pod pod.name))) v = (.ok pod.document, v) := by
    simp only [surroundings, ↓reduceIte]
  rw [WatchChannel.turn_streaming ⟨rfl, rfl⟩, Surroundings.hold_ask, hread]
  simp only [WatchChannel.received, pod.announced, ↓reduceIte, Surroundings.hold_ask]
  change (surroundings pod).hold (.done ((podWatch pod id).notified
    (((surroundings pod).answer (.send (.get (pod.config.resourcePath .pod pod.name)))
      (s.setStream id ⟨[], e⟩)).1.bind (Response.snapshot? .pod)))) _ = _
  rw [hlook]
  change (surroundings pod).hold
    (.done ((podWatch pod id).notified (pod.document.snapshot? .pod))) _ = _
  rw [pod.shown]
  rfl

theorem hold_gate_connecting (containers : List String) (s : LogServer) :
    (surroundings pod).hold (PodLogs.stream ⟨pod.config, pod.name, containers⟩).turn s =
      (.again { PodLogs.stream ⟨pod.config, pod.name, containers⟩ with
          gate := .pod ⟨podWatch pod s.opened⟩ },
        (s.openStream ⟨[⟨s.clock, pod.notice⟩], ⟨s.clock, none⟩⟩).2) := by
  change (surroundings pod).hold (((Tracker.watch _).turn.bind _).bind _) s = _
  rw [Surroundings.hold_bind, Surroundings.hold_bind, hold_watch_connecting]
  rfl

theorem hold_gate_streaming (l : LogLines) (id : StreamId) (e : StreamEnd) (s : LogServer)
    (hf : l.finished = false) (hg : l.gate = .pod ⟨podWatch pod id⟩)
    (hs : s.streams id = ⟨[⟨s.clock, pod.notice⟩], e⟩) :
    (surroundings pod).hold l.turn s =
      (.again { l with gate := .opened pod.name }, s.setStream id ⟨[], e⟩) := by
  have hwait : (surroundings pod).hold (StartWait.turn ⟨podWatch pod id⟩) s =
      (.yield (.ok (some pod.snapshot)) ⟨podWatch pod id⟩, s.setStream id ⟨[], e⟩) := by
    unfold StartWait.turn
    rw [Dialogue.bind_eq, Surroundings.hold_bind, hold_watch_streaming pod id e s hs]
    simp only [StartWait.examine, pod.started, ↓reduceIte]
    rfl
  simp only [LogLines.turn, hf, hg, Bool.false_eq_true, ↓reduceIte, LogLines.awaitPod]
  rw [Dialogue.bind_eq, Surroundings.hold_bind, hwait]
  rfl

/-- The gate of a started pod opens at once, and takes no end from the server's plan. -/
theorem drains_stream (containers : List String) (s : LogServer) (items : List String)
    (rest : ∀ s' : LogServer, s'.clock = s.clock → s'.logs = s.logs → s'.plan = s.plan →
      (surroundings pod).Drains LogLines.turn (reading pod (logSources containers) none) s' items) :
    (surroundings pod).Drains LogLines.turn
      (PodLogs.stream ⟨pod.config, pod.name, containers⟩) s items := by
  apply Surroundings.Drains.again (hold_gate_connecting pod containers s)
  apply Surroundings.Drains.again
  · apply hold_gate_streaming pod _ s.opened ⟨s.clock, none⟩ _ rfl rfl
    simp [LogServer.openStream, LogServer.setStream]
  · exact rest _ rfl rfl rfl

end PipelineObserver.LogServer
