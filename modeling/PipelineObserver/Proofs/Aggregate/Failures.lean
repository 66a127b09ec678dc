import PipelineObserver.Proofs.Aggregate.Deliveries
import PipelineObserver.Proofs.Logs.Gates
import PipelineObserver.Proofs.Tracker.Discovery
/-!
The failures of interleaved logs. Each is reported once and costs only its own source: the streams
that are left are asked in their order, and deliver their lines as long as their calls return.
-/
namespace PipelineObserver.InterleavedLogs

variable {s s' : InterleavedLogs}

theorem Rota.settled_start : Settled ⟨⟨[], [], [], []⟩, [], [], 0⟩ [] := ⟨[], rfl, rfl⟩

/-- What follows a failure: the streams that are left are asked in their order and deliver all. -/
theorem Rota.Fits.goes_on {rota : Rota} {config : Config} {x : Following} {t : List Exchange}
    {e : Failure} (h : rota.Fits config x.logs.inbox x.logs)
    (settled : rota.Settled x.logs.inbox) (last : x.FailsLast (eventsOf rota.passes))
    (connected : x.discovery.isSome → x.logs.senderGone = false)
    (ht : x.logs.turn.Follows t (.turned (.yield (.error e) s'))) : ∃ rota' : Rota,
      rota'.Fits config s'.inbox s' ∧ rota'.Ledger s' ∧
      rota.GoesOn (asked t ++ [.happened (.yielded (.error e))]) rota' ∧
      (x.logs.pulled = none ∧ rota.LosesDiscovery e rota' ∨
        x.logs.pulled ≠ none ∧ ∃ v, rota.LosesStream e v rota') ∧
      rota'.Serves config ⟨x.discovery, s'⟩ ∧ rota'.Reliable config ⟨x.discovery, s'⟩ := by
  obtain ⟨rota', h', ledger, hgoes, hloses, hserves⟩ := h.survives settled last connected ht
  have hlast : Following.FailsLast (eventsOf rota'.passes) ⟨x.discovery, s'⟩ := by
    rw [hgoes.events]
    exact last.step (.read ht)
  have hopen : x.discovery.isSome → s'.senderGone = false := fun hsome =>
    (turn_takes ht).1.trans (connected hsome)
  exact ⟨rota', h', ledger, hgoes, hloses, hserves, h'.reliable ledger.met hlast hopen⟩

/-- Once the end is told, every call is told the end, and nothing else happens. -/
theorem silenced_of_ends {t : List Exchange} (gone : s.senderGone = true)
    (ht : s.turn.Follows t (.turned (.yield (.ok none) s'))) : s'.Silenced := by
  obtain ⟨-, hfinished⟩ := (Step.turn ht).finished List.mem_concat_self
  exact hfinished.silenced ((turn_takes ht).1.trans gone)

/-- A failure is reported once and costs only its own source. While a stream is asked, a turn is one
of that stream. The discovery fails once at most, and its failure is yielded when the pass is over;
what was found before is started then. A stream that fails is asked no more, and the others keep
their places. Whatever follows a failure, the streams that are left run on and are asked in their
order. As long as their calls return, so do those of the logs, which receive all that was sent and
tell all lines of all streams, whether or not something has failed. The end is told if and only if
the discovery is over, its failure was met and every stream has left, and then it is told for
ever. -/
theorem failures_cost_only_their_source (p : PipelineRun) (events : List Event) (x : Following)
    (course : Following.Course p.following events x) :
    ∃ rota : Rota, eventsOf rota.passes = events ∧ rota.Fits p.config x.logs.inbox x.logs ∧
      rota.Ledger x.logs ∧ x.FailsLast events ∧
      (∀ st, x.logs.pulled = some st → ∀ t o, x.logs.turn.Follows t o ↔
        ∃ y, st.lines.turn.Follows t y ∧ o = .turned (x.logs.afterPull st y)) ∧
      (x.logs.pulled = none → x.logs.rotation = 0 → failures x.logs.inbox ≠ [] →
        ∃ e s', x.logs.turn.Follows [] (.turned (.yield (.error e) s'))) ∧
      (∀ t e s', x.logs.turn.Follows t (.turned (.yield (.error e) s')) → ∃ rota' : Rota,
        rota'.Fits p.config s'.inbox s' ∧ rota'.Ledger s' ∧
        rota.GoesOn (asked t ++ [.happened (.yielded (.error e))]) rota' ∧
        (x.logs.pulled = none ∧ rota.LosesDiscovery e rota' ∨
          x.logs.pulled ≠ none ∧ ∃ v, rota.LosesStream e v rota') ∧
        rota'.Serves p.config ⟨x.discovery, s'⟩ ∧ rota'.Reliable p.config ⟨x.discovery, s'⟩) ∧
      rota.Reliable p.config x ∧
      (∀ t s', x.logs.turn.Follows t (.waiting s') →
        s'.pulled = none ∧ s'.active = [] ∧ s'.inbox = [] ∧ x.logs.senderGone = false) ∧
      ((∃ t s', x.logs.turn.Follows t (.turned (.yield (.ok none) s'))) ↔
        x.logs.senderGone = true ∧ failures x.logs.inbox = [] ∧
          ∀ i < found events, ∃ v ∈ visitsOf rota.passes, v.stream = i ∧ v.Leaves) ∧
      ∀ t s', x.logs.turn.Follows t (.turned (.yield (.ok none) s')) → s'.Silenced ∧
        ∀ more y, Following.Course ⟨x.discovery, s'⟩ more y →
          ∃ n, more = List.replicate n Event.ending := by
  have hsound := Following.sound_of_course course
  obtain ⟨rota, h, hgoes, -, hkeeps⟩ :=
    (Rota.fits_start p.config).course_continues hsound.course
  have settled := hkeeps Rota.settled_start
  have hevents : eventsOf rota.passes = events := hgoes.events
  have last := Following.failsLast_of_course course
  rw [← hevents] at last
  refine ⟨rota, hevents, h, h.ledger settled, hevents ▸ last,
    fun st hst t o => follows_turn_pulled hst, h.fails_after_pass,
    fun t e s' ht => h.goes_on settled last hsound.connected ht,
    h.reliable settled last hsound.connected, fun _ _ => h.waits, hevents ▸ h.ends_iff, ?_⟩
  intro t s' ht
  have hgone := (h.left_of_ends ht).1
  have hsilenced := silenced_of_ends hgone ht
  refine ⟨hsilenced, fun more y hlater => ?_⟩
  have hconnected : x.discovery.isSome → s'.senderGone = false := fun hsome =>
    (turn_takes ht).1.trans (hsound.connected hsome)
  exact hsilenced.2 more y.logs (hlater.logs hconnected).1

/-! A discovery that finds two task runs, and then may not look the pipeline run up any more. One of
the task runs may not be watched, and the other one is gone. -/

def revoked : PipelineRun where
  config := {
    apiUrl := "https://api.example.test"
    «namespace» := "ns"
    watch := { maxBadResponses := 1 } }
  name := "run"

def revokedChildren : List ChildReference :=
  [⟨some "TaskRun", "a", none⟩, ⟨some "TaskRun", "b", none⟩]

def revokedDocument : Response := ⟨200,
  "\x7b\"status\":\x7b\"childReferences\":[\x7b\"kind\":\"TaskRun\",\"name\":\"a\"\x7d,
  \x7b\"kind\":\"TaskRun\",\"name\":\"b\"\x7d]\x7d\x7d"⟩

def revokedNotice : String := "\x7b\"type\":\"ADDED\",\"object\":\x7b\x7d\x7d"

def revokedSnapshot : Snapshot where
  kind := "PipelineRun"
  name := ""
  conditions := []
  children := revokedChildren
  podReference := none
  steps := []
  results := []
  labels := []
  annotations := []
  raw := .object [("status", .object [("childReferences", .array [
    .object [("kind", .text "TaskRun"), ("name", .text "a")],
    .object [("kind", .text "TaskRun"), ("name", .text "b")]])])]

def revokedWatch : WatchChannel :=
  { revoked.tracker.watch.tried with stream := some 0, state := .streaming }

def denied : Failure := .apiError 403 "denied"

def shut : Failure := .apiError 403 "shut"

def revokedStream (name : String) : TaskStream :=
  ⟨name, TaskRunLogs.stream ⟨revoked.config, name⟩⟩

def revokedLogs : InterleavedLogs :=
  (revoked.interleavedLogs.deliver (.ok revokedChildren)).deliver (.error denied)

/-- The streams of the task runs are started before the failure is yielded. -/
def revokedAfter : InterleavedLogs :=
  { config := revoked.config, active := [revokedStream "a", revokedStream "b"] }

def revokedAsking : InterleavedLogs where
  config := revoked.config
  active := [revokedStream "b"]
  rotation := 1
  pulled := some (revokedStream "a")

def revokedOver : InterleavedLogs := { config := revoked.config, senderGone := true }

def revokedEvents : List Event := [.sent (.ok revokedChildren), .sent (.error denied)]

theorem course_revoked : Following.Course revoked.following revokedEvents ⟨none, revokedLogs⟩ := by
  have hconnected : WatchChannel.Step revoked.tracker.watch
      [⟨.openStream revoked.tracker.watch.request, .ok 0⟩] (.again revokedWatch) :=
    .connected 0 rfl
  have hevent : WatchChannel.Step revokedWatch
      [⟨.readLine 0, .ok (some revokedNotice)⟩, revoked.tracker.lookedUp (.ok revokedDocument)]
      (.yield (.ok (some (.snapshot revokedSnapshot))) revokedWatch) :=
    .event 0 revokedNotice (.ok revokedDocument) _ ⟨rfl, rfl⟩ (by decide +kernel)
      (by decide +kernel)
  have hdenied : WatchChannel.Step revokedWatch
      [⟨.readLine 0, .ok (some revokedNotice)⟩, revoked.tracker.lookedUp (.ok ⟨403, "denied"⟩)]
      (.yield (.error denied) revokedWatch.fail) :=
    .lookUpFailed 0 revokedNotice (.ok ⟨403, "denied"⟩) denied ⟨rfl, rfl⟩ (by decide +kernel) rfl
  have hfirst := (ChildWatch.follows_turn_iff (w := revoked.watchNewChildren) rfl).mpr
    ⟨_, hconnected.follows, rfl⟩
  have hsecond := (ChildWatch.follows_turn_iff (w := { channel := revokedWatch }) rfl).mpr
    ⟨_, hevent.follows, rfl⟩
  have hthird := (ChildWatch.follows_turn_iff
    (w := { channel := revokedWatch, seen := ["b", "a"] }) rfl).mpr ⟨_, hdenied.follows, rfl⟩
  have hstart : Following.Course revoked.following [] revoked.following := .start
  exact ((hstart.step (.search (.searched hfirst))).step (.search (.found hsecond))).step
    (.search (.failed hthird))

theorem follows_revoked :
    revokedLogs.turn.Follows [] (.turned (.yield (.error denied) revokedAfter)) := .done _

theorem course_revoked_asking : Following.Course revoked.following
    (revokedEvents ++ [.happened (.yielded (.error denied))]) ⟨none, revokedAsking⟩ := by
  have hpull : revokedAfter.turn.Follows [] (.turned (.again revokedAsking)) := .done _
  exact (course_revoked.step (.read follows_revoked)).step (.read hpull)

/-- The watch of a task run is refused for good. -/
def shutOut (name : String) : List Exchange :=
  [⟨.openStream (Tracker.watch ⟨revoked.config, .taskRun, name⟩).request, .error shut⟩]

theorem follows_shut (name : String) : (revokedStream name).lines.turn.Follows (shutOut name)
    (.yield (.error shut) (revokedStream name).lines) := by
  have hgivenUp : WatchChannel.Step (Tracker.watch ⟨revoked.config, .taskRun, name⟩) _ _ :=
    .givenUp shut rfl rfl (Nat.le_refl 1)
  have hfailed : StartWait.Step (Tracker.waitForStart ⟨revoked.config, .taskRun, name⟩) _ _ :=
    .failed hgivenUp.follows
  have hstep : LogLines.Step (revokedStream name).lines _
      (.yield (.error shut) (revokedStream name).lines) := .taskRun rfl rfl hfailed.follows
  exact hstep.follows

theorem follows_revoked_stream : revokedAsking.turn.Follows (shutOut "a")
    (.turned (.yield (.error shut) { revokedAsking with pulled := none })) :=
  (follows_turn_pulled rfl).mpr ⟨_, follows_shut "a", rfl⟩

/-- The other task run is not found, and then the discovery hangs up. -/
theorem course_revoked_over :
    ∃ events, Following.Course revoked.following events ⟨none, revokedOver⟩ := by
  obtain ⟨w, hgone⟩ := StartWait.follows_gone ⟨revoked.config, .taskRun, "b"⟩ "refused"
    (r := ⟨404, ""⟩) rfl
  have hended : LogLines.Step (revokedStream "b").lines _
      (.yield (.ok none) (revokedStream "b").lines.ended) := .taskRun rfl rfl hgone
  have hpull : (turn { revokedAsking with pulled := none }).Follows []
      (.turned (.again { config := revoked.config, pulled := some (revokedStream "b") })) :=
    .done _
  have hother : (turn { config := revoked.config, pulled := some (revokedStream "b") }).Follows _
      (.turned (.again { config := revoked.config })) :=
    (follows_turn_pulled rfl).mpr ⟨_, hended.follows, rfl⟩
  have hfailed := course_revoked_asking.step (.read follows_revoked_stream)
  exact ⟨_, ((hfailed.step (.read hpull)).step (.read hother)).step (.search (.hungUp rfl))⟩

/-! Task runs that have all started, and whose logs go on and on. -/

def talkingDocument : Response := ⟨200,
  "\x7b\"status\":\x7b\"conditions\":[\x7b\"status\":\"Unknown\",\"reason\":\"Running\"\x7d]," ++
    "\"phase\":\"Running\",\"podName\":\"pod\"\x7d\x7d"⟩

def talkingSnapshot (kind : Kind) : Snapshot where
  kind := kind.name
  name := ""
  conditions := [⟨.unknown, "Running", "", none⟩]
  children := []
  podReference := some "pod"
  steps := []
  results := []
  labels := []
  annotations := []
  raw := .object [("status", .object [
    ("conditions", .array [.object [("reason", .text "Running"), ("status", .text "Unknown")]]),
    ("phase", .text "Running"), ("podName", .text "pod")])]

/-- Every line of a stream is the notice of an event, that of a log too. -/
def talking : Surroundings Unit where
  answer
    | .send _, w => (.ok talkingDocument, w)
    | .openStream _, w => (.ok 0, w)
    | .readLine _, w => (.ok (some revokedNotice), w)
    | .sleep _, w => ((), w)
    | .now, w => (0, w)

/-- Lines that come to the next one of the log, and from there to the next one again. -/
inductive Talks : LogLines → Prop
  | again {l l' : LogLines} {t : List Exchange} (here : l.turn.Follows t (.again l'))
      (answers : talking.Answers t () ()) (later : Talks l') : Talks l
  | line {l : LogLines} {t : List Exchange} {line : String}
      (here : l.turn.Follows t (.yield (.ok (some line)) l)) (answers : talking.Answers t () ()) :
      Talks l

theorem talks_reading : Talks (LogLines.reading revoked.config "pod" [none]) := by
  let reading (stream : Option StreamId) : LogLines := { LogLines.reading revoked.config "pod" []
    with cursor := some { container := none, stream := stream, lastActivity := 0 } }
  have htaken : LogLines.Step (LogLines.reading revoked.config "pod" [none]) [⟨.now, (0 : Nat)⟩]
      (.again (reading none)) := .reads rfl rfl (.taken 0 rfl rfl)
  have hopened : LogLines.Step (reading none) _ (.again (reading (some 0))) :=
    .reads rfl rfl (.opened (c := { container := none, lastActivity := 0 }) 0 0 rfl rfl)
  have hline : LogLines.Step (reading (some 0))
      [⟨.readLine 0, .ok (some revokedNotice)⟩, ⟨.now, (0 : Nat)⟩]
      (.yield (.ok (some revokedNotice)) (reading (some 0))) :=
    .reads rfl rfl (.line (c := { container := none, stream := some 0, lastActivity := 0 })
      revokedNotice 0 rfl rfl)
  exact .again htaken.follows (.cons rfl (.nil ()))
    (.again hopened.follows (.cons rfl (.cons rfl (.nil ())))
      (.line hline.follows (.cons rfl (.cons rfl (.nil ())))))

/-- A gate is passed in these surroundings. -/
theorem talks_at_gate {g : Gateway} (guards : g.Guards)
    (shown : talkingDocument.snapshot? g.tracker.kind = .ok (some (talkingSnapshot g.tracker.kind)))
    {next : LogLines} (goesOn : g.next (talkingSnapshot g.tracker.kind)
      (StartWait.watching g.tracker 0) = some next) (h : Talks next) :
    Talks (g.shut g.tracker.waitForStart) := by
  have hannounced : WatchChannel.announces revokedNotice = true := by decide +kernel
  have hstarted : StartWait.Started (talkingSnapshot g.tracker.kind) :=
    ⟨_, rfl, .inr (.inr ⟨rfl, rfl⟩)⟩
  have hconnected := Gateway.follows_turn guards (StartWait.follows_connecting g.tracker 0)
  have hevent := Gateway.follows_turn guards
    (StartWait.follows_starting 0 hannounced shown hstarted)
  rw [Gateway.after, goesOn] at hevent
  exact .again hconnected (.cons rfl (.nil ()))
    (.again hevent (.cons rfl (.cons rfl (.nil ()))) h)

theorem talks_stream (name : String) : Talks (revokedStream name).lines := by
  let taskRun : TaskRunLogs := ⟨revoked.config, name⟩
  let pod : PodLogs := ⟨revoked.config, "pod", []⟩
  have hpod : Talks pod.stream :=
    talks_at_gate pod.guards (by decide +kernel) (pod.gateway_next _ rfl) talks_reading
  have hshown : talkingDocument.snapshot? .taskRun = .ok (some (talkingSnapshot .taskRun)) := by
    decide +kernel
  have hbehind : taskRun.gateway.next (talkingSnapshot .taskRun)
      (StartWait.watching taskRun.tracker 0) = some pod.stream := rfl
  exact talks_at_gate taskRun.guards hshown hbehind hpod

theorem answering_talking :
    LogLines.Answering talking (fun _ _ => True) revoked.config fun l _ => Talks l where
  fresh name _ := talks_stream name
  own l t o w v h ht answers := by
    cases h with
    | again here answers' later =>
      obtain ⟨-, rfl, -⟩ := Surroundings.answers_unique ht answers here answers'
      exact later
    | line here answers' =>
      obtain ⟨-, rfl, -⟩ := Surroundings.answers_unique ht answers here answers'
      exact .line here answers'
  other l m t o w v h _ _ _ := h
  meantime l w v h _ := h
  returns l w h := by
    induction h with
    | again here answers' _ ih =>
      refine .turn fun w' t l' v _ ht answers => ?_
      obtain ⟨-, ho, -⟩ := Surroundings.answers_unique ht answers here answers'
      cases ho
      exact ih
    | line here answers' =>
      refine .turn fun w' t l' v _ ht answers => ?_
      obtain ⟨-, ho, -⟩ := Surroundings.answers_unique ht answers here answers'
      cases ho

theorem all_talk_after : revokedAfter.All (fun l _ => Talks l) () := by
  constructor
  · intro st hst
    rcases List.mem_pair.mp hst with rfl | rfl
    · exact talks_stream "a"
    · exact talks_stream "b"
  · intro st hst
    cases hst

theorem all_talk_left : All (fun l _ => Talks l) { revokedAsking with pulled := none } () := by
  constructor
  · intro st hst
    cases List.mem_singleton.mp hst
    exact talks_stream "b"
  · intro st hst
    cases hst

/-- Both failures are yielded once, and the task runs that are left are served, up to the end. Where
their logs go on and on, so do the lines that are told. -/
theorem failures_cost_only_their_source_revoked :
    (Following.Course revoked.following revokedEvents ⟨none, revokedLogs⟩ ∧
      ∃ rota rota' : Rota, rota.LosesDiscovery denied rota' ∧ raisedOf rota'.passes = [denied] ∧
        rota'.queue.map rota'.stream? = [some (revokedStream "a"), some (revokedStream "b")] ∧
        rota'.Serves revoked.config ⟨none, revokedAfter⟩ ∧
        rota'.Delivers revoked.config talking (fun _ _ => True) ⟨none, revokedAfter⟩ ()) ∧
    (Following.Course revoked.following
        (revokedEvents ++ [.happened (.yielded (.error denied))]) ⟨none, revokedAsking⟩ ∧
      ∃ (rota rota' : Rota) (v : Visit), rota.LosesStream shut v rota' ∧
        raisedOf rota'.passes = [denied, shut] ∧
        rota'.queue.map rota'.stream? = [some (revokedStream "b")] ∧
        rota'.Serves revoked.config ⟨none, { revokedAsking with pulled := none }⟩ ∧
        rota'.Delivers revoked.config talking (fun _ _ => True)
          ⟨none, { revokedAsking with pulled := none }⟩ ()) ∧
    (∃ events, Following.Course revoked.following events ⟨none, revokedOver⟩) ∧
    ∃ t s', revokedOver.turn.Follows t (.turned (.yield (.ok none) s')) ∧ s'.Silenced := by
  obtain ⟨events, hcourse⟩ := course_revoked_over
  refine ⟨⟨course_revoked, ?_⟩, ⟨course_revoked_asking, ?_⟩, ⟨events, hcourse⟩, ?_⟩
  · obtain ⟨rota, hevents, -, -, -, -, -, hfails, -⟩ :=
      failures_cost_only_their_source revoked _ _ course_revoked
    obtain ⟨rota', h', ledger', hgoes, hloses, hserves, hreliable⟩ := hfails _ _ _ follows_revoked
    have hloses' : rota.LosesDiscovery denied rota' := by
      rcases hloses with ⟨-, hloses⟩ | ⟨hpulled, -⟩
      · exact hloses
      · exact absurd rfl hpulled
    refine ⟨rota, rota', hloses', ?_, h'.active.symm, hserves,
      hreliable Unit talking _ _ answering_talking () all_talk_after⟩
    rw [← ledger'.raised, hgoes.events, hevents]
    rfl
  · obtain ⟨rota, hevents, -, -, -, -, -, hfails, -⟩ :=
      failures_cost_only_their_source revoked _ _ course_revoked_asking
    obtain ⟨rota', h', ledger', hgoes, hloses, hserves, hreliable⟩ :=
      hfails _ _ _ follows_revoked_stream
    obtain ⟨v, hloses'⟩ : ∃ v, rota.LosesStream shut v rota' := by
      rcases hloses with ⟨hpulled, -⟩ | ⟨-, hloses⟩
      · cases hpulled
      · exact hloses
    refine ⟨rota, rota', v, hloses', ?_, h'.active.symm, hserves,
      hreliable Unit talking _ _ answering_talking () all_talk_left⟩
    rw [← ledger'.raised, hgoes.events, hevents]
    rfl
  · obtain ⟨rota, -, -, -, -, -, -, -, -, -, -, hends⟩ :=
      failures_cost_only_their_source revoked _ _ hcourse
    have hend : revokedOver.turn.Follows []
        (.turned (.yield (.ok none) { revokedOver with discovering := false })) := .done _
    exact ⟨[], _, hend, (hends _ _ hend).1⟩

end PipelineObserver.InterleavedLogs
