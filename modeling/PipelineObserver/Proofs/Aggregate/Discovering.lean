import PipelineObserver.Proofs.Aggregate.Course
import PipelineObserver.Proofs.Tracker.Start
import PipelineObserver.Proofs.Transience
/-!
Interleaved logs together with the discovery that sends them task runs. A failure that passes comes
out neither of them nor of anything that they are made of.
-/
namespace PipelineObserver

namespace InterleavedLogs

variable {s s' : InterleavedLogs} {t : List Exchange} {o : Advance}

/-! ### What is received -/

theorem receive_failure {waiting : List ChildBatch} {e : Failure}
    (h : s.receive waiting = (some e, s')) : .error e ∈ waiting := by
  induction waiting generalizing s with
  | nil => cases h
  | cons batch waiting ih =>
    cases batch with
    | error e' =>
      cases h
      exact List.mem_cons_self
    | ok found => exact List.mem_cons_of_mem _ (ih (s := s.start found) h)

theorem received_failure {e : Failure} (h : s.received = (some e, s')) : .error e ∈ s.inbox := by
  unfold received receiveAll at h
  split at h
  · split at h
    · exact receive_failure h
    · cases h
  · cases h

/-- What is received is taken from the inbox, and nothing else is sent meanwhile. -/
theorem receive_takes (s : InterleavedLogs) (waiting : List ChildBatch) :
    (s.receive waiting).2.senderGone = s.senderGone ∧
      ∀ batch ∈ (s.receive waiting).2.inbox, batch ∈ waiting := by
  induction waiting generalizing s with
  | nil => exact ⟨rfl, nofun⟩
  | cons batch waiting ih =>
    cases batch with
    | error e => exact ⟨rfl, fun _ => List.mem_cons_of_mem _⟩
    | ok found =>
      obtain ⟨hgone, hinbox⟩ := ih (s.start found)
      exact ⟨hgone, fun b hb => List.mem_cons_of_mem _ (hinbox b hb)⟩

theorem received_takes (s : InterleavedLogs) :
    s.received.2.senderGone = s.senderGone ∧ ∀ batch ∈ s.received.2.inbox, batch ∈ s.inbox := by
  unfold received receiveAll
  split
  · split
    · exact receive_takes s s.inbox
    · exact ⟨rfl, fun _ => id⟩
  · exact ⟨rfl, fun _ => id⟩

/-- A turn sends nothing. -/
theorem turn_takes (h : s.turn.Follows t o) : (stateAfter o).senderGone = s.senderGone ∧
    ∀ batch ∈ (stateAfter o).inbox, batch ∈ s.inbox := by
  cases hp : s.pulled with
  | some stream =>
    obtain ⟨x, -, rfl⟩ := (follows_turn_pulled hp).mp h
    rcases x with l | ⟨e | _ | line, l⟩ <;> exact ⟨rfl, fun _ => id⟩
  | none =>
    obtain ⟨rfl, rfl⟩ := (follows_turn_none hp).mp h
    have htakes := s.received_takes
    have hadvances := advance_advances s
    generalize s.advance = o at hadvances ⊢
    cases hadvances with
    | fails hr | pulls hr | waits hr | ends hr =>
      rw [hr] at htakes
      exact htakes

/-- A failure that a turn yields lasts, or was received. -/
theorem turn_failure {e : Failure} (h : s.turn.Follows t (.turned (.yield (.error e) s'))) :
    e.isTransient = false ∨ .error e ∈ s.inbox := by
  cases hp : s.pulled with
  | some stream =>
    obtain ⟨x, hx, hyield⟩ := (follows_turn_pulled hp).mp h
    have hfirm := stream.lines.turn_firm t x hx
    rcases x with l | ⟨e' | _ | line, l⟩ <;> cases hyield
    exact .inl hfirm
  | none =>
    obtain ⟨-, hyield⟩ := (follows_turn_none hp).mp h
    have hadvances := advance_advances s
    rw [← hyield] at hadvances
    cases hadvances with
    | fails hr => exact .inr (received_failure hr)

theorem mem_seen {a : Except Failure (Option (String × String))}
    (h : .happened (.yielded a) ∈ seen t o) : o = .turned (.yield a (stateAfter o)) := by
  have hasked : .happened (.yielded a) ∉ asked t := by simp [asked]
  rcases o with (s | ⟨b, s⟩) | s
  · exact absurd h hasked
  · rcases List.mem_append.mp h with h | h
    · exact absurd h hasked
    · cases List.mem_singleton.mp h
      rfl
  · exact absurd h hasked

theorem sent_not_mem_seen (batch : ChildBatch) : .sent batch ∉ seen t o := by
  rcases o with (s | ⟨b, s⟩) | s <;> simp [seen, asked]

/-- What is in the inbox was sent; a failure that is yielded lasts, or was sent. -/
theorem Course.failures {origin : InterleavedLogs} {events : List Event}
    (h : Course origin events s) (fresh : origin.inbox = []) :
    (∀ batch ∈ s.inbox, .sent batch ∈ events) ∧
      ∀ e, .happened (.yielded (.error e)) ∈ events →
        e.isTransient = false ∨ .sent (.error e) ∈ events := by
  induction h with
  | start => exact ⟨fun batch hb => by simp [fresh] at hb, nofun⟩
  | @step events more s s' before here ih =>
    obtain ⟨hinbox, hfailures⟩ := ih
    cases here with
    | send batch hopen =>
      constructor
      · intro b hb
        rcases List.mem_append.mp hb with hb | hb
        · exact List.mem_append_left _ (hinbox b hb)
        · cases List.mem_singleton.mp hb
          exact List.mem_append_right _ (List.mem_singleton_self _)
      · intro e he
        have hold : .happened (.yielded (.error e)) ∈ events := by simpa using he
        exact (hfailures e hold).imp_right (List.mem_append_left _)
    | hangUp hopen =>
      constructor
      · exact fun b hb => List.mem_append_left _ (hinbox b hb)
      · intro e he
        have hold : .happened (.yielded (.error e)) ∈ events := by simpa using he
        exact (hfailures e hold).imp_right (List.mem_append_left _)
    | turn ht =>
      constructor
      · exact fun b hb => List.mem_append_left _ (hinbox b ((turn_takes ht).2 b hb))
      · intro e he
        rcases List.mem_append.mp he with he | he
        · exact (hfailures e he).imp_right (List.mem_append_left _)
        · -- A failure from the inbox was sent before.
          rw [mem_seen he] at ht
          exact (turn_failure ht).imp_right fun hb => List.mem_append_left _ (hinbox _ hb)

end InterleavedLogs

/-! ### Interleaved logs and their discovery -/

/-- Interleaved logs, and the discovery as long as it goes on. -/
structure Following where
  discovery : Option ChildWatch
  logs : InterleavedLogs

def PipelineRun.following (p : PipelineRun) : Following :=
  ⟨some p.watchNewChildren, p.interleavedLogs⟩

namespace Following

open InterleavedLogs (Event asked seen stateAfter)

/-- The discovery takes a turn, and its batch is sent. It ends with its watch and after a failure,
and then it hangs up. -/
inductive Search : Following → List Event → Following → Prop
  | searched {w w' : ChildWatch} {s : InterleavedLogs} {t : List Exchange}
      (h : w.turn.Follows t (.again w')) : Search ⟨some w, s⟩ [] ⟨some w', s⟩
  | found {w w' : ChildWatch} {s : InterleavedLogs} {t : List Exchange}
      {children : List ChildReference} (h : w.turn.Follows t (.yield (.ok (some children)) w')) :
      Search ⟨some w, s⟩ [.sent (.ok children)] ⟨some w', s.deliver (.ok children)⟩
  | ended {w w' : ChildWatch} {s : InterleavedLogs} {t : List Exchange}
      (h : w.turn.Follows t (.yield (.ok none) w')) : Search ⟨some w, s⟩ [] ⟨none, s⟩
  | failed {w w' : ChildWatch} {s : InterleavedLogs} {t : List Exchange} {e : Failure}
      (h : w.turn.Follows t (.yield (.error e) w')) :
      Search ⟨some w, s⟩ [.sent (.error e)] ⟨none, s.deliver (.error e)⟩
  | hungUp {s : InterleavedLogs} (h : s.senderGone = false) :
      Search ⟨none, s⟩ [.hungUp] ⟨none, s.hangUp⟩

/-- Either the discovery goes on, or the logs take a turn. -/
inductive Step : Following → List Event → Following → Prop
  | search {x y : Following} {more : List Event} (h : Search x more y) : Step x more y
  | read {discovery : Option ChildWatch} {s : InterleavedLogs} {t : List Exchange}
      {o : InterleavedLogs.Advance} (h : s.turn.Follows t o) :
      Step ⟨discovery, s⟩ (seen t o) ⟨discovery, stateAfter o⟩

/-- Any number of steps, in any order. -/
inductive Course (origin : Following) : List Event → Following → Prop
  | start : Course origin [] origin
  | step {events more : List Event} {x y : Following} (before : Course origin events x)
      (here : Step x more y) : Course origin (events ++ more) y

/-- What is true of each course: the logs have theirs, the line is open as long as the discovery goes
on, and no failure that passes was sent. -/
structure Sound (p : PipelineRun) (events : List Event) (x : Following) : Prop where
  course : InterleavedLogs.Course p.interleavedLogs events x.logs
  connected : x.discovery.isSome → x.logs.senderGone = false
  lasting : ∀ e, .sent (.error e) ∈ events → e.isTransient = false

variable {p : PipelineRun} {events more : List Event} {x y : Following}

/-- A step of the two is one of the logs, or none. -/
theorem Step.logs {origin : InterleavedLogs} (here : Step x more y)
    (course : InterleavedLogs.Course origin events x.logs)
    (connected : x.discovery.isSome → x.logs.senderGone = false) :
    InterleavedLogs.Course origin (events ++ more) y.logs ∧
      (y.discovery.isSome → y.logs.senderGone = false) := by
  cases here with
  | search h =>
    cases h with
    | searched _ | ended _ =>
      rw [List.append_nil]
      exact ⟨course, fun _ => connected rfl⟩
    | found _ => exact ⟨course.step (.send _ (connected rfl)), fun _ => connected rfl⟩
    | failed _ => exact ⟨course.step (.send _ (connected rfl)), nofun⟩
    | hungUp hopen => exact ⟨course.step (.hangUp hopen), nofun⟩
  | read ht =>
    refine ⟨course.step (.turn ht), fun hsome => ?_⟩
    rw [(InterleavedLogs.turn_takes ht).1]
    exact connected hsome

theorem Sound.step (h : Sound p events x) (here : Step x more y) : Sound p (events ++ more) y := by
  obtain ⟨hcourse, hconnected⟩ := here.logs h.course h.connected
  refine ⟨hcourse, hconnected, fun e he => ?_⟩
  rcases List.mem_append.mp he with he | he
  · exact h.lasting e he
  · cases here with
    | search h =>
      cases h with
      | searched _ | ended _ | found _ | hungUp _ => simp at he
      | failed hw =>
        cases List.mem_singleton.mp he
        exact ChildWatch.turn_firm _ _ _ hw
    | read _ => exact absurd he (InterleavedLogs.sent_not_mem_seen _)

theorem sound_of_course (h : Course p.following events x) : Sound p events x := by
  induction h with
  | start => exact ⟨.start, fun _ => rfl, nofun⟩
  | step before here ih => exact ih.step here

theorem lasting_of_course (h : Course p.following events x) {e : Failure}
    (he : .happened (.yielded (.error e)) ∈ events) : e.isTransient = false := by
  have hsound := sound_of_course h
  rcases (hsound.course.failures rfl).2 e he with hlasting | hsent
  · exact hlasting
  · exact hsound.lasting e hsent

end Following

/-- A failure of the connection is yielded by no watch, no wait for a start, no discovery, no lines
of logs and no interleaved logs, in whatever state they begin and whatever is answered. -/
theorem connection_failures_never_surface :
    (∀ (ch : WatchChannel) happened ch', Run WatchChannel.turn ch happened ch' →
      ∀ detail, .yielded (.error (.connection detail)) ∉ happened) ∧
    (∀ (w : StartWait) happened w', Run StartWait.turn w happened w' →
      ∀ detail, .yielded (.error (.connection detail)) ∉ happened) ∧
    (∀ (w : ChildWatch) happened w', Run ChildWatch.turn w happened w' →
      ∀ detail, .yielded (.error (.connection detail)) ∉ happened) ∧
    (∀ (l : LogLines) happened l', Run LogLines.turn l happened l' →
      ∀ detail, .yielded (.error (.connection detail)) ∉ happened) ∧
    ∀ (p : PipelineRun) events x, Following.Course p.following events x →
      ∀ detail, .happened (.yielded (.error (.connection detail))) ∉ events := by
  refine ⟨?_, ?_, ?_, ?_, ?_⟩
  · intro ch happened ch' run detail h
    cases run.lasting WatchChannel.turn_firm h
  · intro w happened w' run detail h
    cases run.lasting StartWait.turn_firm h
  · intro w happened w' run detail h
    cases run.lasting ChildWatch.turn_firm h
  · intro l happened l' run detail h
    cases run.lasting LogLines.turn_firm h
  · intro p events x course detail h
    cases Following.lasting_of_course course h

/-! A pipeline run whose server refuses the connection, and then forbids it. -/

namespace Following

def barred : PipelineRun where
  config := {
    apiUrl := "https://api.example.test"
    «namespace» := "ns"
    watch := { maxBadResponses := 1 } }
  name := "run"

def refused : Failure := .connection "refused"

def forbidden : Failure := .apiError 403 "forbidden"

/-- The watch after the connection was refused. -/
def shaken : WatchChannel := barred.tracker.watch.tried.disconnected

def opening (e : Failure) : Exchange := ⟨.openStream barred.tracker.watch.request, .error e⟩

theorem follows_refused : barred.tracker.watch.turn.Follows [opening refused]
    (.yield (.ok (some .unknown)) shaken) :=
  WatchChannel.Step.follows (.lost refused rfl rfl)

theorem wait_follows_refused : barred.tracker.waitForStart.turn.Follows
    [opening refused, barred.tracker.lookedUp (.error refused)] (.again ⟨shaken⟩) := by
  have hstep := StartWait.Step.doubted (w := barred.tracker.waitForStart) (.error refused) (.inr rfl)
    follows_refused
  exact hstep.follows

theorem lines_follow_refused : (LogLines.turn ⟨barred.config, .taskRun barred.tracker.waitForStart,
      [], none, false⟩).Follows [opening refused, barred.tracker.lookedUp (.error refused)]
    (.again ⟨barred.config, .taskRun ⟨shaken⟩, [], none, false⟩) :=
  Dialogue.follows_bind_iff.mpr ⟨_, [], _, rfl, wait_follows_refused, .done _⟩

theorem discovery_follows_refused : barred.watchNewChildren.turn.Follows [opening refused]
    (.again ⟨shaken, [], false⟩) :=
  Dialogue.follows_bind_iff.mpr ⟨_, [], _, rfl, follows_refused, .done _⟩

def barredEvents : List InterleavedLogs.Event :=
  [.sent (.error forbidden), .happened (.yielded (.error forbidden))]

/-- The connection is refused, which nobody is told, and then forbidden. -/
theorem course_barred : ∃ x, Course barred.following barredEvents x := by
  have hrested : (ChildWatch.turn ⟨shaken, [], false⟩).Follows [⟨.sleep 5000, ()⟩]
      (.again ⟨{ shaken with state := .connecting }, [], false⟩) := by
    have hstep : WatchChannel.Step shaken [⟨.sleep 5000, ()⟩]
        (.again { shaken with state := .connecting }) := .rested rfl
    exact Dialogue.follows_bind_iff.mpr ⟨_, [], _, rfl, hstep.follows, .done _⟩
  have hforbidden : (ChildWatch.turn ⟨{ shaken with state := .connecting }, [], false⟩).Follows
      [opening forbidden] (.yield (.error forbidden)
        ⟨{ shaken with attempts := 2, badResponses := 1, state := .failed }, [], false⟩) := by
    have hstep : WatchChannel.Step { shaken with state := .connecting } [opening forbidden]
        (.yield (.error forbidden)
          { shaken with attempts := 2, badResponses := 1, state := .failed }) :=
      .givenUp forbidden rfl rfl (Nat.le_refl 1)
    exact Dialogue.follows_bind_iff.mpr ⟨_, [], _, rfl, hstep.follows, .done _⟩
  have hread : (barred.interleavedLogs.deliver (.error forbidden)).turn.Follows []
      (.turned (.yield (.error forbidden) barred.interleavedLogs)) := .done _
  have hstart : Course barred.following [] barred.following := .start
  have hsearched := (hstart.step (.search (.searched discovery_follows_refused))).step
    (.search (.searched hrested))
  exact ⟨_, (hsearched.step (.search (.failed hforbidden))).step (.read hread)⟩

/-- The refusal is told by none of them; what the server forbids is told. -/
theorem connection_failures_never_surface_barred :
    (∃ happened ch, Run WatchChannel.turn barred.tracker.watch happened ch ∧
      exchanges happened = [opening refused] ∧ .yielded (.error refused) ∉ happened) ∧
    (∃ happened w, Run StartWait.turn barred.tracker.waitForStart happened w ∧
      opening refused ∈ exchanges happened ∧ .yielded (.error refused) ∉ happened) ∧
    (∃ happened w, Run ChildWatch.turn barred.watchNewChildren happened w ∧
      exchanges happened = [opening refused] ∧ .yielded (.error refused) ∉ happened) ∧
    (∃ happened l l', Run LogLines.turn l happened l' ∧
      opening refused ∈ exchanges happened ∧ .yielded (.error refused) ∉ happened) ∧
    ∃ x, Course barred.following barredEvents x ∧
      .happened (.yielded (.error refused)) ∉ barredEvents := by
  obtain ⟨hwatch, hwait, hchildren, hlines, hfollowing⟩ := connection_failures_never_surface
  obtain ⟨x, hcourse⟩ := course_barred
  have hwatchRun := Run.yield follows_refused (.refl _)
  have hwaitRun := Run.again wait_follows_refused (.refl _)
  have hchildrenRun := Run.again discovery_follows_refused (.refl _)
  have hlinesRun := Run.again lines_follow_refused (.refl _)
  refine ⟨⟨_, _, hwatchRun, rfl, hwatch _ _ _ hwatchRun _⟩,
    ⟨_, _, hwaitRun, List.mem_cons_self, hwait _ _ _ hwaitRun _⟩,
    ⟨_, _, hchildrenRun, rfl, hchildren _ _ _ hchildrenRun _⟩,
    ⟨_, _, _, hlinesRun, List.mem_cons_self, hlines _ _ _ hlinesRun _⟩,
    ⟨x, hcourse, hfollowing _ _ _ hcourse _⟩⟩

end Following

end PipelineObserver
