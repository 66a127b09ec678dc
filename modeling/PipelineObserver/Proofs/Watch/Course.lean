import PipelineObserver.Proofs.Watch.Channel
/-!
The course of a watch, told from what happens around it alone: every connection is refused or opens
a stream, which delivers lines and then is closed or breaks off. `Tracker.run_watch_course` says that
a watch takes these courses and no others.
-/
namespace PipelineObserver

/-- What becomes of a connection. Each line stands with the answer to a look-up after it, which is
not used unless there is one. -/
inductive Connection where
  | refused (e : Failure)
  | opened (stream : StreamId) (lines : List (String × Except Failure Response))
      (broken : Option Failure)

namespace Tracker

/-- What happens in the course of a watch. -/
abbrev Course := List (Happening (Except Failure (Option WatchItem)))

variable (t : Tracker)

/-- The end, of which every later call is told again. -/
def endCourse (calls : Nat) : Course := List.replicate calls (.yielded (.ok none))

/-- Goes on after a connection, with a pause, unless the connections are used up. -/
def pauseCourse (calls attempts : Nat) (next : Course) : Course :=
  if t.config.watch.maxAttempts ≤ attempts then endCourse calls
  else .exchanged ⟨.sleep t.config.watch.retryDelay, ()⟩ :: next

/-- What happens on an open stream, and then. -/
def streamCourse (calls : Nat) (stream : StreamId) (broken : Option Failure) (next : Course) :
    List (String × Except Failure Response) → Course
  | [] =>
    match broken with
    | none => .exchanged ⟨.readLine stream, .ok none⟩ :: next
    | some e => .exchanged ⟨.readLine stream, .error e⟩ ::
        if e.isTransient then next else .yielded (.error e) :: endCourse calls
  | (line, answer) :: rest =>
    .exchanged ⟨.readLine stream, .ok (some line)⟩ ::
      if Text.isAllBlank line ∨ (WatchEvent.ofLine line).isOk = false then
        streamCourse calls stream broken next rest
      else .exchanged (t.lookedUp answer) ::
        match WatchItem.ofAnswer t.kind answer with
        | .ok item => .yielded (.ok (some item)) :: streamCourse calls stream broken next rest
        | .error e => .yielded (.error e) :: endCourse calls

/-- What happens in a watch that has tried some connections already, of which some were rejected. -/
def course (calls : Nat) : Nat → Nat → List Connection → Course
  | _, _, [] => []
  | attempts, rejected, .refused e :: later =>
    .exchanged ⟨.openStream t.watch.request, .error e⟩ ::
      if e.isTransient then
        .yielded (.ok (some .unknown)) ::
          t.pauseCourse calls (attempts + 1) (course calls (attempts + 1) rejected later)
      else if rejected + 1 < t.config.watch.maxBadResponses then
        t.pauseCourse calls (attempts + 1) (course calls (attempts + 1) (rejected + 1) later)
      else .yielded (.error e) :: endCourse calls
  | attempts, rejected, .opened stream lines broken :: later =>
    .exchanged ⟨.openStream t.watch.request, .ok stream⟩ ::
      t.streamCourse calls stream broken
        (t.pauseCourse calls (attempts + 1) (course calls (attempts + 1) rejected later)) lines

end Tracker

namespace WatchChannel

variable {ch : WatchChannel}

theorem announces_eq_true_iff (line : String) : announces line = true ↔
    ¬ (Text.isAllBlank line = true ∨ (WatchEvent.ofLine line).isOk = false) := by
  simp [announces]

theorem announces_eq_false_iff (line : String) : announces line = false ↔
    (Text.isAllBlank line = true ∨ (WatchEvent.ofLine line).isOk = false) := by
  cases hb : Text.isAllBlank line <;> simp [announces, hb]

/-- What happens in a channel from any of its states on. The lines and the end are those of the open
stream, if there is one. -/
def course (ch : WatchChannel) (calls : Nat) (lines : List (String × Except Failure Response))
    (broken : Option Failure) (later : List Connection) : Tracker.Course :=
  let next := ch.target.course calls ch.attempts ch.badResponses later
  match ch.state with
  | .connecting => next
  | .streaming =>
    let paused := ch.target.pauseCourse calls ch.attempts next
    ch.stream.elim paused fun stream => ch.target.streamCourse calls stream broken paused lines
  | .backoff => .exchanged ⟨.sleep ch.settings.retryDelay, ()⟩ :: next
  | .exhausted | .failed => Tracker.endCourse calls

theorem course_disconnected (calls : Nat) (lines : List (String × Except Failure Response))
    (broken : Option Failure) (later : List Connection) :
    ch.disconnected.course calls lines broken later =
      ch.target.pauseCourse calls ch.attempts
        (ch.target.course calls ch.attempts ch.badResponses later) := by
  unfold disconnected course Tracker.pauseCourse settings
  split <;> rfl

/-! ### Every course is taken -/

section Taken

variable {t : List Exchange} {ch' : WatchChannel} {rest whole : Tracker.Course}

theorem Step.run_again (h : Step ch t (.again ch')) (hrest : ∃ v, Run turn ch' rest v)
    (hwhole : whole = t.map .exchanged ++ rest) : ∃ v, Run turn ch whole v := by
  obtain ⟨v, hv⟩ := hrest
  exact ⟨v, hwhole ▸ .again h.follows hv⟩

theorem Step.run_yield {a : Except Failure (Option WatchItem)} (h : Step ch t (.yield a ch'))
    (hrest : ∃ v, Run turn ch' rest v) (hwhole : whole = t.map .exchanged ++ .yielded a :: rest) :
    ∃ v, Run turn ch whole v := by
  obtain ⟨v, hv⟩ := hrest
  exact ⟨v, hwhole ▸ .yield h.follows hv⟩

theorem run_end (ch : WatchChannel) (calls : Nat) (h : ch.state = .exhausted ∨ ch.state = .failed) :
    ∃ v, Run turn ch (Tracker.endCourse calls) v := by
  induction calls with
  | zero => exact ⟨ch, .refl ch⟩
  | succ calls ih => exact Step.run_yield (.ended h) ih rfl

theorem run_pause (ch : WatchChannel) (calls : Nat)
    (h : ∃ v, Run turn { ch with stream := none, state := .connecting } rest v) :
    ∃ v, Run turn ch.disconnected (ch.target.pauseCourse calls ch.attempts rest) v := by
  unfold Tracker.pauseCourse
  by_cases hmax : ch.target.config.watch.maxAttempts ≤ ch.attempts
  · rw [if_pos hmax]
    exact run_end _ calls (.inl (if_pos hmax))
  · rw [if_neg hmax]
    exact Step.run_again (.rested (if_neg hmax)) h rfl

theorem run_stream (ch : WatchChannel) (calls : Nat) (id : StreamId) (broken : Option Failure)
    (hid : ch.Streams id) (h : ∃ v, Run turn ch.disconnected rest v)
    (lines : List (String × Except Failure Response)) :
    ∃ v, Run turn ch (ch.target.streamCourse calls id broken rest lines) v := by
  induction lines with
  | nil =>
    rcases broken with _ | e
    · exact Step.run_again (.closed id hid) h rfl
    · cases he : e.isTransient with
      | true =>
        apply Step.run_again (.broken id e hid he) h
        simp only [Tracker.streamCourse, he, ↓reduceIte]
        rfl
      | false =>
        apply Step.run_yield (.unreadable id e hid he) (run_end _ calls (.inr rfl))
        simp only [Tracker.streamCourse, he, Bool.false_eq_true, ↓reduceIte]
        rfl
  | cons x lines ih =>
    obtain ⟨line, answer⟩ := x
    cases hl : announces line with
    | false =>
      apply Step.run_again (.noise id line hid hl) ih
      simp only [Tracker.streamCourse, (announces_eq_false_iff line).mp hl, ↓reduceIte]
      rfl
    | true =>
      simp only [Tracker.streamCourse, (announces_eq_true_iff line).mp hl, ↓reduceIte]
      cases hitem : WatchItem.ofAnswer ch.target.kind answer with
      | ok item => exact Step.run_yield (.event id line answer item hid hl hitem) ih rfl
      | error e =>
        exact Step.run_yield (.lookUpFailed id line answer e hid hl hitem)
          (run_end _ calls (.inr rfl)) rfl

theorem run_connections (ch : WatchChannel) (calls : Nat) (later : List Connection)
    (h : ch.state = .connecting) :
    ∃ v, Run turn ch (ch.target.course calls ch.attempts ch.badResponses later) v := by
  -- Every connection leaves another number of attempts and of rejections.
  induction later generalizing ch with
  | nil => exact ⟨ch, .refl ch⟩
  | cons c later ih =>
    have hnext := run_pause ch.tried calls
      (ih { ch.tried with stream := none, state := .connecting } rfl)
    rcases c with e | ⟨id, lines, broken⟩
    · cases he : e.isTransient with
      | true =>
        apply Step.run_yield (.lost e h he) hnext
        simp only [Tracker.course, he, ↓reduceIte]
        rfl
      | false =>
        by_cases hbad : ch.badResponses + 1 < ch.target.config.watch.maxBadResponses
        · apply Step.run_again (.rejected e h he hbad) (run_pause ch.tried.rejectedOnce calls
            (ih { ch.tried.rejectedOnce with stream := none, state := .connecting } rfl))
          simp only [Tracker.course, he, hbad, Bool.false_eq_true, ↓reduceIte]
          rfl
        · apply Step.run_yield (.givenUp e h he (Nat.not_lt.mp hbad)) (run_end _ calls (.inr rfl))
          simp only [Tracker.course, he, hbad, Bool.false_eq_true, ↓reduceIte]
          rfl
    · exact Step.run_again (.connected id h)
        (run_stream { ch.tried with stream := some id, state := .streaming } calls id broken
          ⟨rfl, rfl⟩ hnext lines) rfl

theorem run_course (ch : WatchChannel) (calls : Nat)
    (lines : List (String × Except Failure Response)) (broken : Option Failure)
    (later : List Connection) : ∃ v, Run turn ch (ch.course calls lines broken later) v := by
  have hpaused := run_pause ch calls
    (run_connections { ch with stream := none, state := .connecting } calls later rfl)
  unfold course
  cases h : ch.state with
  | connecting => exact run_connections ch calls later h
  | streaming =>
    cases hstream : ch.stream with
    | none => exact Step.run_again (.streamless h hstream) hpaused rfl
    | some id => exact run_stream ch calls id broken ⟨h, hstream⟩ hpaused lines
  | backoff =>
    exact Step.run_again (.rested h)
      (run_connections { ch with state := .connecting } calls later rfl) rfl
  | exhausted => exact run_end ch calls (.inl h)
  | failed => exact run_end ch calls (.inr h)

end Taken

/-! ### No other course is taken -/

/-- What happens in a step begins a course, of which the rest is any course from the next state. -/
theorem Step.course_again {t : List Exchange} {ch ch' : WatchChannel}
    (hs : Step ch t (.again ch')) (calls : Nat) (lines : List (String × Except Failure Response))
    (broken : Option Failure) (later : List Connection) : ∃ lines' broken' later',
      ch.course calls lines' broken' later' =
        t.map .exchanged ++ ch'.course calls lines broken later := by
  cases hs with
  | connected id h =>
    refine ⟨[], none, .opened id lines broken :: later, ?_⟩
    simp only [course, h]
    rfl
  | rejected e h hard below =>
    refine ⟨[], none, .refused e :: later, ?_⟩
    have hbelow : ch.badResponses + 1 < ch.target.config.watch.maxBadResponses := below
    rw [course_disconnected]
    simp only [course, h, Tracker.course, hard, hbelow, Bool.false_eq_true, ↓reduceIte]
    rfl
  | streamless h absent =>
    refine ⟨lines, broken, later, ?_⟩
    rw [course_disconnected]
    simp only [course, h, absent]
    rfl
  | noise id line h silent =>
    refine ⟨(line, .ok ⟨404, ""⟩) :: lines, broken, later, ?_⟩
    simp only [course, h.1, h.2, Option.elim, Tracker.streamCourse,
      (announces_eq_false_iff line).mp silent, ↓reduceIte]
    rfl
  | closed id h =>
    refine ⟨[], none, later, ?_⟩
    rw [course_disconnected]
    simp only [course, h.1, h.2]
    rfl
  | broken id e h transient =>
    refine ⟨[], some e, later, ?_⟩
    rw [course_disconnected]
    simp only [course, h.1, h.2, Option.elim, Tracker.streamCourse, transient, ↓reduceIte]
    rfl
  | rested h =>
    refine ⟨[], none, later, ?_⟩
    simp only [course, h]
    rfl

theorem Step.course_yield {t : List Exchange} {a : Except Failure (Option WatchItem)}
    {ch ch' : WatchChannel} (hs : Step ch t (.yield a ch')) (calls : Nat)
    (lines : List (String × Except Failure Response)) (broken : Option Failure)
    (later : List Connection) : ∃ calls' lines' broken' later',
      ch.course calls' lines' broken' later' =
        t.map .exchanged ++ .yielded a :: ch'.course calls lines broken later := by
  cases hs with
  | lost e h transient =>
    refine ⟨calls, [], none, .refused e :: later, ?_⟩
    rw [course_disconnected]
    simp only [course, h, Tracker.course, transient, ↓reduceIte]
    rfl
  | givenUp e h hard limit =>
    refine ⟨calls, [], none, [.refused e], ?_⟩
    have hlimit : ¬ ch.badResponses + 1 < ch.target.config.watch.maxBadResponses :=
      Nat.not_lt.mpr limit
    simp only [course, h, Tracker.course, hard, hlimit, Bool.false_eq_true, ↓reduceIte]
    rfl
  | event id line answer item h announced found =>
    refine ⟨calls, (line, answer) :: lines, broken, later, ?_⟩
    simp only [course, h.1, h.2, Option.elim, Tracker.streamCourse,
      (announces_eq_true_iff line).mp announced, found, ↓reduceIte]
    rfl
  | lookUpFailed id line answer e h announced failed =>
    refine ⟨calls, [(line, answer)], none, later, ?_⟩
    simp only [course, h.1, h.2, Option.elim, Tracker.streamCourse,
      (announces_eq_true_iff line).mp announced, failed, ↓reduceIte]
    rfl
  | unreadable id e h hard =>
    refine ⟨calls, [], some e, later, ?_⟩
    simp only [course, h.1, h.2, Option.elim, Tracker.streamCourse, hard, Bool.false_eq_true,
      ↓reduceIte]
    rfl
  | ended h =>
    -- One more call is told of the end.
    refine ⟨calls + 1, [], none, later, ?_⟩
    rcases h with h | h <;> simp only [course, h] <;> rfl

/-- After what happened on the way from one state to another, a run can go on to a whole course. -/
theorem run_completes {ch ch' : WatchChannel} {happened : Tracker.Course}
    (h : Run turn ch happened ch') : ∃ calls lines broken later rest v,
      Run turn ch' rest v ∧ happened ++ rest = ch.course calls lines broken later := by
  induction h with
  | refl ch =>
    -- Where the run stops, the open stream may be closed and no connection follow.
    obtain ⟨v, hv⟩ := run_course ch 0 [] none []
    exact ⟨0, [], none, [], _, v, hv, rfl⟩
  | again ht _ ih =>
    obtain ⟨calls, lines, broken, later, rest, v, hv, hrest⟩ := ih
    obtain ⟨lines', broken', later', hcourse⟩ :=
      (step_of_follows ht).course_again calls lines broken later
    refine ⟨calls, lines', broken', later', rest, v, hv, ?_⟩
    rw [List.append_assoc, hrest, hcourse]
  | yield ht _ ih =>
    obtain ⟨calls, lines, broken, later, rest, v, hv, hrest⟩ := ih
    obtain ⟨calls', lines', broken', later', hcourse⟩ :=
      (step_of_follows ht).course_yield calls lines broken later
    refine ⟨calls', lines', broken', later', rest, v, hv, ?_⟩
    rw [List.append_assoc, List.cons_append, hrest, hcourse]

end WatchChannel

/-- A watch takes every one of these courses, and whatever happens in it is the beginning of one,
with which it can go on. Calls after the end are told of the end again. -/
theorem Tracker.run_watch_course (t : Tracker) :
    (∀ calls behaviour, ∃ ch, Run WatchChannel.turn t.watch (t.course calls 0 0 behaviour) ch) ∧
      ∀ happened ch, Run WatchChannel.turn t.watch happened ch →
        ∃ calls behaviour rest ch', Run WatchChannel.turn ch rest ch' ∧
          happened ++ rest = t.course calls 0 0 behaviour := by
  constructor
  · intro calls behaviour
    exact WatchChannel.run_connections t.watch calls behaviour rfl
  · intro happened ch h
    obtain ⟨calls, lines, broken, later, rest, ch', hrest, heq⟩ := WatchChannel.run_completes h
    exact ⟨calls, later, rest, ch', hrest, heq⟩

/-! A watch whose first stream tells an event and a blank line before it is closed, and whose second
connection is refused by the network. -/

def interruptedTracker : Tracker :=
  ⟨{ apiUrl := "https://api.example.test", «namespace» := "ns" }, .taskRun, "build"⟩

def deletedNotice : String := "\x7b\"type\":\"DELETED\",\"object\":\x7b\x7d\x7d"

def interruptedBehaviour : List Connection :=
  [.opened 0 [(deletedNotice, .ok ⟨404, ""⟩), (" ", .ok ⟨200, ""⟩)] none,
    .refused (.connection "refused")]

/-- The resource is looked up for the event, not for the blank line. -/
def interruptedCourse : Tracker.Course :=
  [.exchanged ⟨.openStream interruptedTracker.watch.request, .ok 0⟩,
    .exchanged ⟨.readLine 0, .ok (some deletedNotice)⟩,
    .exchanged (interruptedTracker.lookedUp (.ok ⟨404, ""⟩)),
    .yielded (.ok (some .absent)),
    .exchanged ⟨.readLine 0, .ok (some " ")⟩,
    .exchanged ⟨.readLine 0, .ok none⟩,
    .exchanged ⟨.sleep interruptedTracker.config.watch.retryDelay, ()⟩,
    .exchanged ⟨.openStream interruptedTracker.watch.request, .error (.connection "refused")⟩,
    .yielded (.ok (some .unknown)),
    .exchanged ⟨.sleep interruptedTracker.config.watch.retryDelay, ()⟩]

theorem course_interrupted :
    interruptedTracker.course 0 0 0 interruptedBehaviour = interruptedCourse := by
  have hevent : ¬ (Text.isAllBlank deletedNotice = true ∨
      (WatchEvent.ofLine deletedNotice).isOk = false) := by decide +kernel
  have hblank : Text.isAllBlank " " = true ∨ (WatchEvent.ofLine " ").isOk = false :=
    .inl (by decide +kernel)
  simp only [interruptedBehaviour, Tracker.course, Tracker.streamCourse, if_neg hevent,
    if_pos hblank]
  rfl

theorem Tracker.run_watch_course_interrupted :
    interruptedTracker.course 0 0 0 interruptedBehaviour = interruptedCourse ∧
      ∃ ch, Run WatchChannel.turn interruptedTracker.watch interruptedCourse ch ∧
        ∃ calls behaviour rest ch', Run WatchChannel.turn ch rest ch' ∧
          interruptedCourse ++ rest = interruptedTracker.course calls 0 0 behaviour := by
  obtain ⟨htaken, hbegins⟩ := Tracker.run_watch_course interruptedTracker
  obtain ⟨ch, hrun⟩ := htaken 0 interruptedBehaviour
  rw [course_interrupted] at hrun
  exact ⟨course_interrupted, ch, hrun, hbegins _ _ hrun⟩

end PipelineObserver
