import PipelineObserver.Logs.Lines
import PipelineObserver.Proofs.Runs
/-!
What the lines of logs can do in one turn: a turn of the wait at a gate, or one of the steps of
reading. `follows_turn_iff` says that there is nothing else.
-/
namespace PipelineObserver

/-- A log is asked for by the path of the pod, followed by this. -/
def Request.isForLog (r : Request) : Bool := "/log".toList.isSuffixOf r.path.toList

namespace LogLines

/-- What happens to the lines of logs. -/
abbrev Course := List (Happening (Except Failure (Option String)))

/-- The requests for streams of logs, in their order. -/
def logRequests (happened : Course) : List Request :=
  (exchanges happened).filterMap fun
    | ⟨.openStream r, _⟩ => if r.isForLog then some r else none
    | _ => none

/-- The lines that were told, in their order. -/
def toldLines (happened : Course) : List String :=
  (yields happened).filterMap fun
    | .ok line => line
    | .error _ => none

/-- The lines that were read from streams, in their order. -/
def deliveredLines (asked : List Exchange) : List String :=
  asked.filterMap fun
    | ⟨.readLine _, .ok line⟩ => line
    | _ => none

theorem logRequests_append (happened more : Course) :
    logRequests (happened ++ more) = logRequests happened ++ logRequests more := by
  rw [logRequests, exchanges_append, List.filterMap_append]
  rfl

theorem toldLines_append (happened more : Course) :
    toldLines (happened ++ more) = toldLines happened ++ toldLines more := by
  rw [toldLines, yields_append, List.filterMap_append]
  rfl

theorem deliveredLines_append (asked more : List Exchange) :
    deliveredLines (asked ++ more) = deliveredLines asked ++ deliveredLines more :=
  List.filterMap_append

variable (l : LogLines)

/-- What follows at the gate of the task run from a turn of the wait there. -/
def afterTaskRun : StartWait.Outcome → Outcome
  | .again w => .again { l with gate := .taskRun w }
  | .yield (.error e) w => .yield (.error e) { l with gate := .taskRun w.restart }
  | .yield (.ok none) _ => .yield (.ok none) l.ended
  | .yield (.ok (some s)) _ =>
    match s.podReference with
    | none => .yield (.ok none) l.ended
    | some pod =>
      .again { l with
        pending := logSources s.stepContainers
        gate := .pod (Tracker.waitForStart ⟨l.config, .pod, pod⟩) }

/-- What follows at the gate of the pod from a turn of the wait there. -/
def afterPod : StartWait.Outcome → Outcome
  | .again w => .again { l with gate := .pod w }
  | .yield (.error e) w => .yield (.error e) { l with gate := .pod w.restart }
  | .yield (.ok none) _ => .yield (.ok none) l.ended
  | .yield (.ok (some _)) w => .again { l with gate := .opened w.channel.target.name }

theorem awaitTaskRun_eq (w : StartWait) :
    l.awaitTaskRun w = w.turn.bind fun o => .done (l.afterTaskRun o) := by
  unfold awaitTaskRun
  rw [Dialogue.bind_eq]
  congr 1
  funext o
  rcases o with w | ⟨e | _ | s, w⟩
  · rfl
  · rfl
  · rfl
  · cases hpod : s.podReference <;> simp [afterTaskRun, hpod]

theorem awaitPod_eq (w : StartWait) :
    l.awaitPod w = w.turn.bind fun o => .done (l.afterPod o) := by
  unfold awaitPod
  rw [Dialogue.bind_eq]
  congr 1
  funext o
  rcases o with w | ⟨e | _ | s, w⟩ <;> rfl

/-- The steps of reading the logs of a pod. -/
inductive ReadStep (pod : String) : List Exchange → Outcome → Prop
  -- The next source is taken.
  | taken {source : Option String} {rest : List (Option String)} (time : Nat)
      (idle : l.cursor = none) (next : l.pending = source :: rest) :
      ReadStep pod [⟨.now, time⟩] (.again { l with
        pending := rest
        cursor := some { container := source, lastActivity := time } })
  | drained (idle : l.cursor = none) (next : l.pending = []) :
      ReadStep pod [] (.yield (.ok none) l.ended)
  | opened {c : LogCursor} (time : Nat) (id : StreamId) (at_ : l.cursor = some c)
      (closed : c.stream = none) :
      ReadStep pod [⟨.now, time⟩, ⟨.openStream (l.request pod c), .ok id⟩] (.again { l with
        cursor := some { c with stream := some id, lastActivity := time } })
  | refused {c : LogCursor} (time : Nat) (e : Failure) (later : Nat) (at_ : l.cursor = some c)
      (closed : c.stream = none) :
      ReadStep pod
        [⟨.now, time⟩, ⟨.openStream (l.request pod c), .error e⟩, ⟨.now, later⟩]
        (l.interrupted { c with lastActivity := time } e later)
  | line {c : LogCursor} {id : StreamId} (text : String) (time : Nat) (at_ : l.cursor = some c)
      (reading : c.stream = some id) :
      ReadStep pod [⟨.readLine id, .ok (some text)⟩, ⟨.now, time⟩]
        (.yield (.ok (some text)) { l with cursor := some { c with lastActivity := time } })
  | closed {c : LogCursor} {id : StreamId} (time : Nat) (at_ : l.cursor = some c)
      (reading : c.stream = some id) :
      ReadStep pod [⟨.readLine id, .ok none⟩, ⟨.now, time⟩] (.again (l.disconnected c time))
  | broken {c : LogCursor} {id : StreamId} (e : Failure) (time : Nat) (at_ : l.cursor = some c)
      (reading : c.stream = some id) :
      ReadStep pod [⟨.readLine id, .error e⟩, ⟨.now, time⟩] (l.interrupted c e time)

inductive Step : List Exchange → Outcome → Prop
  | ended (h : l.finished = true) : Step [] (.yield (.ok none) l)
  | taskRun {w : StartWait} {t : List Exchange} {o : StartWait.Outcome} (h : l.finished = false)
      (gate : l.gate = .taskRun w) (here : w.turn.Follows t o) : Step t (l.afterTaskRun o)
  | pod {w : StartWait} {t : List Exchange} {o : StartWait.Outcome} (h : l.finished = false)
      (gate : l.gate = .pod w) (here : w.turn.Follows t o) : Step t (l.afterPod o)
  | reads {pod : String} {t : List Exchange} {o : Outcome} (h : l.finished = false)
      (gate : l.gate = .opened pod) (here : ReadStep l pod t o) : Step t o

variable {l} {pod : String} {t : List Exchange} {o : Outcome}

/-- What follows from the answer to a request for a stream, which was sent at some time. -/
def asked (l : LogLines) (c : LogCursor) (time : Nat) : Except Failure StreamId → Dialogue Outcome
  | .ok id => .done (.again { l with
      cursor := some { c with stream := some id, lastActivity := time } })
  | .error e => .ask .now fun later =>
      .done (l.interrupted { c with lastActivity := time } e later)

/-- What follows at a given time from the answer to the reading of a line. -/
def received (l : LogLines) (c : LogCursor) (time : Nat) : Except Failure (Option String) → Outcome
  | .ok (some text) =>
    .yield (.ok (some text)) { l with cursor := some { c with lastActivity := time } }
  | .ok none => .again (l.disconnected c time)
  | .error e => l.interrupted c e time

theorem openStream_eq (c : LogCursor) : l.openStream pod c =
    .ask .now fun time => .ask (.openStream (l.request pod c)) fun answer =>
      l.asked c time answer := by
  refine congrArg (Dialogue.ask .now) (funext fun time => ?_)
  refine congrArg (Dialogue.ask (.openStream (l.request pod c))) (funext fun answer => ?_)
  cases answer <;> rfl

theorem readLine_eq (c : LogCursor) (id : StreamId) : l.readLine c id =
    .ask (.readLine id) fun answer => .ask .now fun time => .done (l.received c time answer) := by
  refine congrArg (Dialogue.ask (.readLine id)) (funext fun answer => ?_)
  rcases answer with e | _ | text <;> rfl

theorem readStep_of_openStream {c : LogCursor} (at_ : l.cursor = some c) (closed : c.stream = none)
    (ht : (l.openStream pod c).Follows t o) : ReadStep l pod t o := by
  rw [openStream_eq] at ht
  obtain ⟨time, u, rfl, hopen⟩ := Dialogue.follows_ask_iff.mp ht
  obtain ⟨answer, v, rfl, hasked⟩ := Dialogue.follows_ask_iff.mp hopen
  cases answer with
  | ok id =>
    obtain ⟨rfl, rfl⟩ := Dialogue.follows_done_iff.mp hasked
    exact .opened time id at_ closed
  | error e =>
    obtain ⟨later, w, rfl, hlater⟩ := Dialogue.follows_ask_iff.mp hasked
    obtain ⟨rfl, rfl⟩ := Dialogue.follows_done_iff.mp hlater
    exact .refused time e later at_ closed

theorem readStep_of_readLine {c : LogCursor} {id : StreamId} (at_ : l.cursor = some c)
    (reading : c.stream = some id) (ht : (l.readLine c id).Follows t o) : ReadStep l pod t o := by
  rw [readLine_eq] at ht
  obtain ⟨answer, u, rfl, hanswer⟩ := Dialogue.follows_ask_iff.mp ht
  obtain ⟨time, v, rfl, hdone⟩ := Dialogue.follows_ask_iff.mp hanswer
  obtain ⟨rfl, rfl⟩ := Dialogue.follows_done_iff.mp hdone
  rcases answer with e | _ | text
  · exact .broken e time at_ reading
  · exact .closed time at_ reading
  · exact .line text time at_ reading

theorem readStep_of_follows (ht : (l.read pod).Follows t o) : ReadStep l pod t o := by
  unfold read at ht
  cases hcursor : l.cursor with
  | some c =>
    cases hstream : c.stream with
    | some id =>
      simp only [hcursor, hstream] at ht
      exact readStep_of_readLine hcursor hstream ht
    | none =>
      simp only [hcursor, hstream] at ht
      exact readStep_of_openStream hcursor hstream ht
  | none =>
    cases hpending : l.pending with
    | nil =>
      simp only [hcursor, hpending] at ht
      obtain ⟨rfl, rfl⟩ := Dialogue.follows_done_iff.mp ht
      exact .drained hcursor hpending
    | cons source rest =>
      simp only [hcursor, hpending] at ht
      change (Dialogue.ask .now _).Follows t o at ht
      obtain ⟨time, rest', rfl, hrest⟩ := Dialogue.follows_ask_iff.mp ht
      obtain ⟨rfl, rfl⟩ := Dialogue.follows_done_iff.mp hrest
      exact .taken time hcursor hpending

theorem read_of_stream {c : LogCursor} {id : StreamId} (at_ : l.cursor = some c)
    (reading : c.stream = some id) : l.read pod = l.readLine c id := by
  simp only [read, at_, reading]

theorem read_of_cursor {c : LogCursor} (at_ : l.cursor = some c) (closed : c.stream = none) :
    l.read pod = l.openStream pod c := by
  simp only [read, at_, closed]

theorem follows_received {c : LogCursor} {id : StreamId} (at_ : l.cursor = some c)
    (reading : c.stream = some id) (answer : Except Failure (Option String)) (time : Nat) :
    (l.read pod).Follows [⟨.readLine id, answer⟩, ⟨.now, time⟩] (l.received c time answer) := by
  rw [read_of_stream at_ reading, readLine_eq]
  exact .ask (.readLine id) _ answer _ _ (.ask .now _ time _ _ (.done _))

theorem follows_asked {c : LogCursor} (at_ : l.cursor = some c) (closed : c.stream = none)
    (time : Nat) {answer : Except Failure StreamId} (rest : (l.asked c time answer).Follows t o) :
    (l.read pod).Follows (⟨.now, time⟩ :: ⟨.openStream (l.request pod c), answer⟩ :: t) o := by
  rw [read_of_cursor at_ closed, openStream_eq]
  exact .ask .now _ time _ _ (.ask (.openStream _) _ answer _ _ rest)

theorem ReadStep.follows (hs : ReadStep l pod t o) : (l.read pod).Follows t o := by
  cases hs with
  | taken time idle next =>
    simp only [read, idle, next]
    exact .ask .now _ time _ _ (.done _)
  | drained idle next =>
    simp only [read, idle, next]
    exact .done _
  | opened time id at_ closed => exact follows_asked at_ closed time (.done _)
  | refused time e later at_ closed =>
    exact follows_asked at_ closed time (.ask .now _ later _ _ (.done _))
  | line text time at_ reading => exact follows_received at_ reading (.ok (some text)) time
  | closed time at_ reading => exact follows_received at_ reading (.ok none) time
  | broken e time at_ reading => exact follows_received at_ reading (.error e) time

theorem turn_finished (h : l.finished = true) : l.turn = .done (.yield (.ok none) l) := by
  simp only [turn, h, ↓reduceIte]
  rfl

theorem turn_taskRun {w : StartWait} (h : l.finished = false) (gate : l.gate = .taskRun w) :
    l.turn = w.turn.bind fun o => .done (l.afterTaskRun o) := by
  simp only [turn, h, gate, Bool.false_eq_true, ↓reduceIte, awaitTaskRun_eq]

theorem turn_pod {w : StartWait} (h : l.finished = false) (gate : l.gate = .pod w) :
    l.turn = w.turn.bind fun o => .done (l.afterPod o) := by
  simp only [turn, h, gate, Bool.false_eq_true, ↓reduceIte, awaitPod_eq]

theorem turn_opened (h : l.finished = false) (gate : l.gate = .opened pod) :
    l.turn = l.read pod := by
  simp only [turn, h, gate, Bool.false_eq_true, ↓reduceIte]

theorem step_of_follows (ht : l.turn.Follows t o) : Step l t o := by
  cases hfinished : l.finished with
  | true =>
    rw [turn_finished hfinished] at ht
    obtain ⟨rfl, rfl⟩ := Dialogue.follows_done_iff.mp ht
    exact .ended hfinished
  | false =>
    cases hgate : l.gate with
    | taskRun w =>
      rw [turn_taskRun hfinished hgate] at ht
      obtain ⟨u, v, x, rfl, hx, hrest⟩ := Dialogue.follows_bind_iff.mp ht
      obtain ⟨rfl, rfl⟩ := Dialogue.follows_done_iff.mp hrest
      rw [List.append_nil]
      exact .taskRun hfinished hgate hx
    | pod w =>
      rw [turn_pod hfinished hgate] at ht
      obtain ⟨u, v, x, rfl, hx, hrest⟩ := Dialogue.follows_bind_iff.mp ht
      obtain ⟨rfl, rfl⟩ := Dialogue.follows_done_iff.mp hrest
      rw [List.append_nil]
      exact .pod hfinished hgate hx
    | opened pod =>
      rw [turn_opened hfinished hgate] at ht
      exact .reads hfinished hgate (readStep_of_follows ht)

theorem Step.follows (hs : Step l t o) : l.turn.Follows t o := by
  cases hs with
  | ended h =>
    rw [turn_finished h]
    exact .done _
  | taskRun h gate here =>
    rw [turn_taskRun h gate, ← List.append_nil t]
    exact here.bind (.done _)
  | pod h gate here =>
    rw [turn_pod h gate, ← List.append_nil t]
    exact here.bind (.done _)
  | reads h gate here =>
    rw [turn_opened h gate]
    exact here.follows

/-- A turn does one of the steps, and every step is the course of some turn. -/
theorem follows_turn_iff : l.turn.Follows t o ↔ Step l t o := ⟨step_of_follows, Step.follows⟩

theorem silent_of_finished (h : l.finished = true) : Silent turn l :=
  Silent.of_turns (P := fun l => l.finished = true) (fun l h => ⟨l, turn_finished h, h⟩) h

end LogLines

end PipelineObserver
