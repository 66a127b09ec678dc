import PipelineObserver.Dialogue.Transcript
import PipelineObserver.Watch.Channel
/-!
What a watch channel can do in one turn: `follows_turn_iff` lists the steps, each with all that is
asked and answered in it. Whatever holds of the steps holds of every run.
-/
namespace PipelineObserver

/-- The item that the answer to a look-up stands for, unless it is a failure. -/
def WatchItem.ofAnswer (k : Kind) (answer : Except Failure Response) : Except Failure WatchItem :=
  match answer.bind (Response.snapshot? k) with
  | .ok (some s) => .ok (.snapshot s)
  | .ok none => .ok .absent
  | .error e => if e.isTransient then .ok .unknown else .error e

/-- Looking a resource up is one question. -/
theorem Tracker.snapshot_run (t : Tracker) : t.snapshot.run =
    .ask (.send (.get (t.config.resourcePath t.kind t.name))) fun answer =>
      .done (answer.bind (Response.snapshot? t.kind)) := by
  change Dialogue.ask _ _ = Dialogue.ask _ _
  congr 1
  funext answer
  cases answer <;> rfl

/-- The look-up of a resource, with its answer. -/
def Tracker.lookedUp (t : Tracker) (answer : Except Failure Response) : Exchange :=
  ⟨.send (.get (t.config.resourcePath t.kind t.name)), answer⟩

namespace WatchChannel

def tried (ch : WatchChannel) : WatchChannel := { ch with attempts := ch.attempts + 1 }

def rejectedOnce (ch : WatchChannel) : WatchChannel :=
  { ch with badResponses := ch.badResponses + 1 }

/-- The channel reads from the given stream. -/
def Streams (ch : WatchChannel) (id : StreamId) : Prop :=
  ch.state = .streaming ∧ ch.stream = some id

/-- The steps of a channel, each with what was asked and answered and what it comes to. -/
inductive Step (ch : WatchChannel) : List Exchange → Outcome → Prop
  | connected (id : StreamId) (h : ch.state = .connecting) :
      Step ch [⟨.openStream ch.request, .ok id⟩]
        (.again { ch.tried with stream := some id, state := .streaming })
  -- The network failed at a connection.
  | lost (e : Failure) (h : ch.state = .connecting) (transient : e.isTransient = true) :
      Step ch [⟨.openStream ch.request, .error e⟩]
        (.yield (.ok (some .unknown)) ch.tried.disconnected)
  -- A connection was rejected, but not too often yet.
  | rejected (e : Failure) (h : ch.state = .connecting) (hard : e.isTransient = false)
      (below : ch.badResponses + 1 < ch.settings.maxBadResponses) :
      Step ch [⟨.openStream ch.request, .error e⟩] (.again ch.tried.rejectedOnce.disconnected)
  | givenUp (e : Failure) (h : ch.state = .connecting) (hard : e.isTransient = false)
      (limit : ch.settings.maxBadResponses ≤ ch.badResponses + 1) :
      Step ch [⟨.openStream ch.request, .error e⟩]
        (.yield (.error e) { ch.tried.rejectedOnce with state := .failed })
  -- There is no stream to read from.
  | streamless (h : ch.state = .streaming) (absent : ch.stream = none) :
      Step ch [] (.again ch.disconnected)
  -- An event arrived, and the resource was looked up.
  | event (id : StreamId) (line : String) (answer : Except Failure Response) (item : WatchItem)
      (h : ch.Streams id) (announced : announces line = true)
      (found : WatchItem.ofAnswer ch.target.kind answer = .ok item) :
      Step ch [⟨.readLine id, .ok (some line)⟩, ch.target.lookedUp answer]
        (.yield (.ok (some item)) ch)
  | lookUpFailed (id : StreamId) (line : String) (answer : Except Failure Response) (e : Failure)
      (h : ch.Streams id) (announced : announces line = true)
      (failed : WatchItem.ofAnswer ch.target.kind answer = .error e) :
      Step ch [⟨.readLine id, .ok (some line)⟩, ch.target.lookedUp answer]
        (.yield (.error e) ch.fail)
  -- A line arrived that is no event.
  | noise (id : StreamId) (line : String) (h : ch.Streams id)
      (silent : announces line = false) : Step ch [⟨.readLine id, .ok (some line)⟩] (.again ch)
  | closed (id : StreamId) (h : ch.Streams id) :
      Step ch [⟨.readLine id, .ok none⟩] (.again ch.disconnected)
  | broken (id : StreamId) (e : Failure) (h : ch.Streams id)
      (transient : e.isTransient = true) :
      Step ch [⟨.readLine id, .error e⟩] (.again ch.disconnected)
  | unreadable (id : StreamId) (e : Failure) (h : ch.Streams id)
      (hard : e.isTransient = false) :
      Step ch [⟨.readLine id, .error e⟩] (.yield (.error e) ch.fail)
  | rested (h : ch.state = .backoff) :
      Step ch [⟨.sleep ch.settings.retryDelay, ()⟩] (.again { ch with state := .connecting })
  | ended (h : ch.state = .exhausted ∨ ch.state = .failed) : Step ch [] (.yield (.ok none) ch)

variable {ch : WatchChannel} {t : List Exchange} {o : Outcome}

theorem turn_connecting (h : ch.state = .connecting) : ch.turn =
    .ask (.openStream ch.request) fun answer => .done (ch.tried.connected answer) := by
  simp only [turn, h]
  rfl

theorem notified_eq (answer : Except Failure Response) :
    ch.notified (answer.bind (Response.snapshot? ch.target.kind)) =
      match WatchItem.ofAnswer ch.target.kind answer with
      | .ok item => .yield (.ok (some item)) ch
      | .error e => .yield (.error e) ch.fail := by
  unfold WatchItem.ofAnswer
  rcases answer.bind (Response.snapshot? ch.target.kind) with e | _ | s
  · cases he : e.isTransient <;> simp [notified, he]
  · rfl
  · rfl

/-- What follows from the answer to the reading of a line. -/
def received (ch : WatchChannel) : Except Failure (Option String) → Dialogue Outcome
  | .ok (some line) =>
    if announces line then
      .ask (.send (.get (ch.target.config.resourcePath ch.target.kind ch.target.name)))
        fun answer => .done (ch.notified (answer.bind (Response.snapshot? ch.target.kind)))
    else .done (.again ch)
  | .ok none => .done (.again ch.disconnected)
  | .error e =>
    .done (if e.isTransient then .again ch.disconnected else .yield (.error e) ch.fail)

theorem turn_streaming {id : StreamId} (h : ch.Streams id) :
    ch.turn = .ask (.readLine id) ch.received := by
  simp only [turn, h.1, h.2]
  change Dialogue.ask _ _ = Dialogue.ask _ _
  congr 1
  funext answer
  rcases answer with e | _ | line
  · rfl
  · rfl
  · simp only [received, Dialogue.bind_eq, Dialogue.bind_done, Tracker.snapshot_run]
    split <;> rfl

theorem turn_streamless (h : ch.state = .streaming) (absent : ch.stream = none) :
    ch.turn = .done (.again ch.disconnected) := by
  simp only [turn, h, absent]
  rfl

theorem turn_backoff (h : ch.state = .backoff) : ch.turn =
    .ask (.sleep ch.settings.retryDelay)
      fun _ => .done (.again { ch with state := .connecting }) := by
  simp only [turn, h]
  rfl

theorem turn_over (h : ch.state = .exhausted ∨ ch.state = .failed) :
    ch.turn = .done (.yield (.ok none) ch) := by
  rcases h with h | h <;> simp only [turn, h] <;> rfl

theorem connected_lost (ch : WatchChannel) {e : Failure} (transient : e.isTransient = true) :
    ch.connected (.error e) = .yield (.ok (some .unknown)) ch.disconnected := if_pos transient

theorem connected_rejected (ch : WatchChannel) {e : Failure} (hard : e.isTransient = false)
    (below : ch.badResponses + 1 < ch.settings.maxBadResponses) :
    ch.connected (.error e) = .again ch.rejectedOnce.disconnected := by
  simp only [connected, hard, Bool.false_eq_true, ↓reduceIte]
  exact if_neg (Nat.not_le.mpr below)

theorem connected_givenUp (ch : WatchChannel) {e : Failure} (hard : e.isTransient = false)
    (limit : ch.settings.maxBadResponses ≤ ch.badResponses + 1) :
    ch.connected (.error e) = .yield (.error e) { ch.rejectedOnce with state := .failed } := by
  simp only [connected, hard, Bool.false_eq_true, ↓reduceIte]
  exact if_pos limit

theorem step_of_connected (h : ch.state = .connecting) (answer : Except Failure StreamId) :
    Step ch [⟨.openStream ch.request, answer⟩] (ch.tried.connected answer) := by
  rcases answer with e | id
  · cases he : e.isTransient with
    | true =>
      rw [connected_lost ch.tried he]
      exact .lost e h he
    | false =>
      by_cases below : ch.badResponses + 1 < ch.settings.maxBadResponses
      · rw [connected_rejected ch.tried he below]
        exact .rejected e h he below
      · rw [connected_givenUp ch.tried he (Nat.not_lt.mp below)]
        exact .givenUp e h he (Nat.not_lt.mp below)
  · exact .connected id h

theorem step_of_received {id : StreamId} (h : ch.Streams id)
    {answer : Except Failure (Option String)} (ht : (ch.received answer).Follows t o) :
    Step ch (⟨.readLine id, answer⟩ :: t) o := by
  rcases answer with e | _ | line
  · obtain ⟨rfl, rfl⟩ := Dialogue.follows_done_iff.mp ht
    cases he : e.isTransient with
    | true => exact .broken id e h he
    | false => exact .unreadable id e h he
  · obtain ⟨rfl, rfl⟩ := Dialogue.follows_done_iff.mp ht
    exact .closed id h
  · cases hl : announces line with
    | true =>
      simp only [received, hl, ↓reduceIte] at ht
      obtain ⟨answer, rest, rfl, hrest⟩ := Dialogue.follows_ask_iff.mp ht
      obtain ⟨rfl, rfl⟩ := Dialogue.follows_done_iff.mp hrest
      rw [notified_eq]
      cases hitem : WatchItem.ofAnswer ch.target.kind answer with
      | ok item => exact .event id line answer item h hl hitem
      | error e => exact .lookUpFailed id line answer e h hl hitem
    | false =>
      simp only [received, hl, Bool.false_eq_true, ↓reduceIte] at ht
      obtain ⟨rfl, rfl⟩ := Dialogue.follows_done_iff.mp ht
      exact .noise id line h hl

/-- The steps are all that a turn can do. -/
theorem step_of_follows (ht : ch.turn.Follows t o) : Step ch t o := by
  cases h : ch.state with
  | connecting =>
    rw [turn_connecting h] at ht
    obtain ⟨answer, rest, rfl, hrest⟩ := Dialogue.follows_ask_iff.mp ht
    obtain ⟨rfl, rfl⟩ := Dialogue.follows_done_iff.mp hrest
    exact step_of_connected h answer
  | streaming =>
    cases hstream : ch.stream with
    | none =>
      rw [turn_streamless h hstream] at ht
      obtain ⟨rfl, rfl⟩ := Dialogue.follows_done_iff.mp ht
      exact .streamless h hstream
    | some id =>
      rw [turn_streaming ⟨h, hstream⟩] at ht
      obtain ⟨answer, rest, rfl, hrest⟩ := Dialogue.follows_ask_iff.mp ht
      exact step_of_received ⟨h, hstream⟩ hrest
  | backoff =>
    rw [turn_backoff h] at ht
    obtain ⟨answer, rest, rfl, hrest⟩ := Dialogue.follows_ask_iff.mp ht
    obtain ⟨rfl, rfl⟩ := Dialogue.follows_done_iff.mp hrest
    exact .rested h
  | exhausted =>
    rw [turn_over (.inl h)] at ht
    obtain ⟨rfl, rfl⟩ := Dialogue.follows_done_iff.mp ht
    exact .ended (.inl h)
  | failed =>
    rw [turn_over (.inr h)] at ht
    obtain ⟨rfl, rfl⟩ := Dialogue.follows_done_iff.mp ht
    exact .ended (.inr h)

theorem follows_of_connected (h : ch.state = .connecting) {answer : Except Failure StreamId}
    (ho : ch.tried.connected answer = o) :
    ch.turn.Follows [⟨.openStream ch.request, answer⟩] o := by
  rw [turn_connecting h, Dialogue.follows_ask_iff]
  exact ⟨answer, [], rfl, Dialogue.follows_done_iff.mpr ⟨rfl, ho.symm⟩⟩

theorem follows_of_received {id : StreamId} (h : ch.Streams id)
    {answer : Except Failure (Option String)} (ht : (ch.received answer).Follows t o) :
    ch.turn.Follows (⟨.readLine id, answer⟩ :: t) o := by
  rw [turn_streaming h, Dialogue.follows_ask_iff]
  exact ⟨answer, t, rfl, ht⟩

/-- Every step can be done. -/
theorem Step.follows (hs : Step ch t o) : ch.turn.Follows t o := by
  cases hs with
  | connected id h => exact follows_of_connected h rfl
  | lost e h transient => exact follows_of_connected h (connected_lost ch.tried transient)
  | rejected e h hard below => exact follows_of_connected h (connected_rejected ch.tried hard below)
  | givenUp e h hard limit => exact follows_of_connected h (connected_givenUp ch.tried hard limit)
  | streamless h absent =>
    rw [turn_streamless h absent]
    exact .done _
  | event id line answer item h announced found =>
    apply follows_of_received h
    simp only [received, announced, ↓reduceIte, Dialogue.follows_ask_iff]
    refine ⟨answer, [], rfl, Dialogue.follows_done_iff.mpr ⟨rfl, ?_⟩⟩
    rw [notified_eq, found]
  | lookUpFailed id line answer e h announced failed =>
    apply follows_of_received h
    simp only [received, announced, ↓reduceIte, Dialogue.follows_ask_iff]
    refine ⟨answer, [], rfl, Dialogue.follows_done_iff.mpr ⟨rfl, ?_⟩⟩
    rw [notified_eq, failed]
  | noise id line h silent =>
    apply follows_of_received h
    simp only [received, silent, Bool.false_eq_true, ↓reduceIte]
    exact .done _
  | closed id h => exact follows_of_received h (.done _)
  | broken id e h transient =>
    apply follows_of_received h
    simp only [received, transient, ↓reduceIte]
    exact .done _
  | unreadable id e h hard =>
    apply follows_of_received h
    simp only [received, hard, Bool.false_eq_true, ↓reduceIte]
    exact .done _
  | rested h =>
    rw [turn_backoff h, Dialogue.follows_ask_iff]
    exact ⟨(), [], rfl, .done _⟩
  | ended h =>
    rw [turn_over h]
    exact .done _

/-- A turn does one of the steps, and every step is the course of some turn. -/
theorem follows_turn_iff : ch.turn.Follows t o ↔ Step ch t o := ⟨step_of_follows, Step.follows⟩

end WatchChannel

end PipelineObserver
