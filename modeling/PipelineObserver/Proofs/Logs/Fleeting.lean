import PipelineObserver.Proofs.Courses
import PipelineObserver.Proofs.Logs.Collecting
/-!
Streams of logs that are closed as soon as they are opened. With a bound on silence that is positive
each source is done after one of them; with none the first source is asked for again and again.
Validity does not look at the bound: `PodLogs.Fleeting.ends_unless_unbounded`.
-/
namespace PipelineObserver

variable {ω : Type} {S : Surroundings ω} {P : ω → Prop} {w v u : ω}

/-- The surroundings host a pod that is seen to start, and whose streams of logs bring no line and
are closed at the time at which they were asked for. -/
structure PodLogs.Fleeting (l : PodLogs) (S : Surroundings ω) (P : ω → Prop) : Prop where
  stays : S.Stays P
  started : ∀ w, P w → ∃ s v, S.Returns StartWait.turn
    (Tracker.waitForStart ⟨l.config, .pod, l.pod⟩) w (.ok (some s)) v
  closed : ∀ source ∈ logSources l.containers, ∀ since w time w', P w →
    S.answer .now w = (time, w') → ∃ id u v v',
      S.answer (.openStream (l.config.followRequest l.pod source since)) w' = (.ok id, u) ∧
      S.answer (.readLine id) u = (.ok none, v) ∧ S.answer .now v = (time, v')

/-! ### Runs that tell nothing -/

namespace LogLines

/-- The lines go on without telling anything, and send these requests for streams of logs. -/
def Silently (S : Surroundings ω) (l : LogLines) (w : ω) (requests : List Request) (l' : LogLines)
    (v : ω) : Prop :=
  ∃ happened, S.Takes turn l w happened l' v ∧ yields happened = [] ∧
    logRequests happened = requests

variable {l l' l'' : LogLines} {requests more : List Request}

theorem Silently.refl (l : LogLines) (w : ω) : Silently S l w [] l w := ⟨[], .refl l w, rfl, rfl⟩

theorem Silently.trans (h : Silently S l w requests l' v) (h' : Silently S l' v more l'' u) :
    Silently S l w (requests ++ more) l'' u := by
  obtain ⟨happened, htakes, hquiet, rfl⟩ := h
  obtain ⟨later, htakes', hquiet', rfl⟩ := h'
  refine ⟨happened ++ later, htakes.trans htakes', ?_, logRequests_append ..⟩
  rw [yields_append, hquiet, hquiet', List.append_nil]

theorem Silently.of_turn {t : List Exchange} (ht : l.turn.Follows t (.again l'))
    (answers : S.Answers t w v) :
    Silently S l w (logRequests ((Turn.again l' : Outcome).happenings t)) l' v :=
  ⟨_, .of_turn ht answers, yields_happenings t _, rfl⟩

theorem Silently.ends (h : Silently S l w requests l' v)
    (ht : l'.turn = .done (.yield (.ok none) l'')) :
    ∃ happened, S.Ends turn l w happened ∧ yields happened = [] ∧
      logRequests happened = requests := by
  obtain ⟨happened, htakes, hquiet, hrequests⟩ := h
  have hlast : l'.turn.Follows [] (.yield (.ok none) l'') := ht ▸ .done _
  have hends := Surroundings.Ends.after htakes (by simp [hquiet]) (.last hlast (.nil v))
  rw [List.map_nil, List.append_nil] at hends
  exact ⟨happened, hends, hquiet, hrequests⟩

/-- Lines that send more requests than any number without telling anything do not end. -/
theorem not_ends (h : ∀ n, ∃ requests l' v, n ≤ requests.length ∧ Silently S l w requests l' v) :
    ¬ ∃ happened, S.Ends turn l w happened := by
  rintro ⟨happened, hends⟩
  obtain ⟨requests, l', v, hlength, taken, htakes, hquiet, rfl⟩ :=
    h ((exchanges happened).length + 1)
  -- That run has told nothing, so it is a part of the one that ends; but it sent too much for that.
  rcases hends.beginning htakes with hbegins | hbegins
  · have hmem : Except.ok none ∈ yields taken := mem_yields.mpr (hbegins.subset (by simp))
    rw [hquiet] at hmem
    cases hmem
  · have hasked : (logRequests taken).length ≤ (exchanges taken).length :=
      List.length_filterMap_le ..
    have hshort : (exchanges taken).length ≤ (exchanges happened).length :=
      (hbegins.filterMap _).length_le
    omega

end LogLines

/-- A gate that is passed tells nothing, and no log is asked for at it. -/
theorem Gateway.silently {g : Gateway} (guards : g.Guards) {s : Snapshot} {next : LogLines}
    (goesOn : ∀ wait, wait.channel.target = g.tracker → g.next s wait = some next)
    {asked : List Exchange} {wait : StartWait} {result : Except Failure (Option Snapshot)}
    (hresult : result = .ok (some s)) (waiting : StartWait.Waiting g.tracker asked wait)
    (started : S.Returns StartWait.turn wait w result v) :
    LogLines.Silently S (g.shut wait) w [] next v := by
  have hturn {wait : StartWait} {w v : ω} {o : StartWait.Outcome} {l : LogLines}
      {asked : List Exchange} (waiting : StartWait.Waiting g.tracker asked wait)
      (here : S.hold wait.turn w = (o, v)) (hafter : ∀ t, wait.turn.Follows t o →
        g.after wait o = .again l) : LogLines.Silently S (g.shut wait) w [] l v := by
    obtain ⟨t, ht, answers⟩ := S.follows_answers wait.turn w
    rw [here] at ht answers
    have hfollows : (g.shut wait).turn.Follows t (.again l) := by
      rw [guards wait, ← hafter t ht, ← List.append_nil t]
      exact ht.bind (.done _)
    have hunasked : LogLines.logRequests ((Turn.again l : LogLines.Outcome).happenings t) = [] := by
      refine logRequests_of_asks (t := g.tracker) ?_
      rw [exchanges_happenings]
      exact fun x hx => waiting.own_turn ht x (List.mem_append_right _ hx)
    rw [← hunasked]
    exact .of_turn hfollows answers
  -- On the turns of the wait behind the gate.
  induction started generalizing asked with
  | again here _ ih =>
    obtain ⟨t, ht⟩ := S.follows_hold _ _
    rw [here] at ht
    exact (hturn waiting here fun _ _ => rfl).trans (ih hresult (waiting.again ht))
  | yield here =>
    subst hresult
    refine hturn waiting here ?_
    intro t ht
    rw [Gateway.after, goesOn _ (waiting.target_turn ht)]

/-- The lines of a pod at a place in one of its logs, with the sources that are left. -/
def PodLogs.placed (l : PodLogs) (rest : List (Option String)) (c : LogCursor) : LogLines where
  config := l.config
  gate := .opened l.pod
  pending := rest
  cursor := some c

namespace PodLogs.Fleeting

open LogLines

variable {l : PodLogs} {source : Option String} {rest : List (Option String)}

theorem passes (h : l.Fleeting S P) (hw : P w) : ∃ v, P v ∧
    Silently S l.stream w [] (reading l.config l.pod (logSources l.containers)) v := by
  obtain ⟨s, v, hstarted⟩ := h.started w hw
  refine ⟨v, h.stays.returns hstarted hw, ?_⟩
  exact Gateway.silently l.guards (fun _ => l.gateway_next s) rfl
    (StartWait.waiting_start [] (by simp)) hstarted

theorem takes_source (h : l.Fleeting S P) (source : Option String) (rest : List (Option String))
    (hw : P w) : ∃ time v, P v ∧ Silently S (reading l.config l.pod (source :: rest)) w []
      (l.placed rest ⟨source, none, none, time⟩) v := by
  obtain ⟨time, v, hnow⟩ : ∃ time v, S.answer .now w = (time, v) := ⟨_, _, rfl⟩
  have hanswers : S.Answers [⟨.now, time⟩] w v := .cons hnow (.nil v)
  have htaken : LogLines.Step (reading l.config l.pod (source :: rest)) [⟨.now, time⟩]
      (.again (l.placed rest ⟨source, none, none, time⟩)) := .reads rfl rfl (.taken time rfl rfl)
  exact ⟨time, v, h.stays.answers hanswers hw, .of_turn htaken.follows hanswers⟩

/-- One stream of a source is opened and closed, with no time between. -/
theorem round (h : l.Fleeting S P) (known : source ∈ logSources l.containers)
    (rest : List (Option String)) (since : Option Nat) (last : Nat) (hw : P w) :
    ∃ id time v, P v ∧ Silently S (l.placed rest ⟨source, since, none, last⟩) w
      [l.config.followRequest l.pod source since]
      ((l.placed rest ⟨source, since, some id, time⟩).disconnected ⟨source, since, some id, time⟩
        time) v := by
  obtain ⟨time, w', hnow⟩ : ∃ time w', S.answer .now w = (time, w') := ⟨_, _, rfl⟩
  obtain ⟨id, u, v, v', hopened, hclosed, hsame⟩ := h.closed source known since w time w' hw hnow
  have hopen : LogLines.Step (l.placed rest ⟨source, since, none, last⟩)
      [⟨.now, time⟩, ⟨.openStream (l.config.followRequest l.pod source since), .ok id⟩]
      (.again (l.placed rest ⟨source, since, some id, time⟩)) := by
    have hstep : ReadStep (l.placed rest ⟨source, since, none, last⟩) l.pod _ _ :=
      .opened time id rfl rfl
    rw [request_eq] at hstep
    exact .reads rfl rfl hstep
  have hclose : LogLines.Step (l.placed rest ⟨source, since, some id, time⟩)
      [⟨.readLine id, .ok none⟩, ⟨.now, time⟩] _ := .reads rfl rfl (.closed time rfl rfl)
  have hfirst : S.Answers _ w u := .cons hnow (.cons hopened (.nil u))
  have hsecond : S.Answers _ u v' := .cons hclosed (.cons hsame (.nil v'))
  have hsilent := (Silently.of_turn hopen.follows hfirst).trans (.of_turn hclose.follows hsecond)
  have hlog := l.config.followRequest_isForLog l.pod source since
  simp only [logRequests, exchanges_happenings, List.filterMap_cons, List.filterMap_nil, hlog,
    ↓reduceIte, List.append_nil] at hsilent
  exact ⟨id, time, v', h.stays.answers hsecond (h.stays.answers hfirst hw), hsilent⟩

theorem disconnected_positive (positive : 0 < l.config.logs.minIdleTimeout)
    (rest : List (Option String)) (c c' : LogCursor) :
    (l.placed rest c').disconnected c c.lastActivity = reading l.config l.pod rest := by
  -- No time has passed since the last activity, which is below every positive bound.
  rw [disconnected, Nat.sub_self]
  exact if_pos positive

theorem disconnected_unbounded (unbounded : l.config.logs.minIdleTimeout = 0)
    (rest : List (Option String)) (c c' : LogCursor) :
    (l.placed rest c').disconnected c c.lastActivity =
      l.placed rest { c with stream := none, since := some 0 } := by
  rw [disconnected, Nat.sub_self]
  exact if_neg (Nat.not_lt.mpr (Nat.le_of_eq unbounded))

/-- With a positive bound each source is done after one stream. -/
theorem reads_sources (h : l.Fleeting S P) (positive : 0 < l.config.logs.minIdleTimeout)
    {sources : List (Option String)} (known : ∀ c ∈ sources, c ∈ logSources l.containers)
    (hw : P w) : ∃ v, Silently S (reading l.config l.pod sources) w
      (sources.map fun source => l.config.followRequest l.pod source none)
      (reading l.config l.pod []) v := by
  induction sources generalizing w with
  | nil => exact ⟨w, .refl _ w⟩
  | cons source rest ih =>
    obtain ⟨hsource, hrest⟩ := List.forall_mem_cons.mp known
    obtain ⟨taken, u, hu, htake⟩ := h.takes_source source rest hw
    obtain ⟨id, time, v, hv, hround⟩ := h.round hsource rest none taken hu
    have hdone := disconnected_positive positive rest ⟨source, none, some id, time⟩
    rw [hdone] at hround
    obtain ⟨v', hlater⟩ := ih hrest hv
    exact ⟨v', (htake.trans hround).trans hlater⟩

/-- With no bound a source is never done. -/
theorem goes_on (h : l.Fleeting S P) (unbounded : l.config.logs.minIdleTimeout = 0)
    (known : source ∈ logSources l.containers) (rest : List (Option String)) (n : Nat)
    (since : Option Nat) (last : Nat) (hw : P w) :
    ∃ l' v, Silently S (l.placed rest ⟨source, since, none, last⟩) w
      (l.config.followRequest l.pod source since ::
        List.replicate n (l.config.followRequest l.pod source (some 0))) l' v := by
  induction n generalizing w since last with
  | zero =>
    obtain ⟨id, time, v, -, hround⟩ := h.round known rest since last hw
    exact ⟨_, v, hround⟩
  | succ n ih =>
    obtain ⟨id, time, v, hv, hround⟩ := h.round known rest since last hw
    have hagain := disconnected_unbounded unbounded rest ⟨source, since, some id, time⟩
    rw [hagain] at hround
    obtain ⟨l', u, hlater⟩ := ih (some 0) time hv
    exact ⟨l', u, hround.trans hlater⟩

theorem ends (h : l.Fleeting S P) (positive : 0 < l.config.logs.minIdleTimeout) (hw : P w) :
    ∃ happened, S.Ends LogLines.turn l.stream w happened ∧ yields happened = [] ∧
      logRequests happened =
        (logSources l.containers).map fun source => l.config.followRequest l.pod source none := by
  obtain ⟨u, hu, hpasses⟩ := h.passes hw
  obtain ⟨v, hreads⟩ := h.reads_sources positive (fun _ hc => hc) hu
  have hdrained : (reading l.config l.pod []).turn =
      .done (.yield (.ok none) (reading l.config l.pod []).ended) := turn_opened rfl rfl
  exact (hpasses.trans hreads).ends hdrained

theorem stays_with_first (h : l.Fleeting S P) (unbounded : l.config.logs.minIdleTimeout = 0)
    (hw : P w) : ∃ source rest, logSources l.containers = source :: rest ∧ ∀ n, ∃ l' v,
      Silently S l.stream w (l.config.followRequest l.pod source none ::
        List.replicate n (l.config.followRequest l.pod source (some 0))) l' v := by
  obtain ⟨source, rest, hsources⟩ : ∃ source rest, logSources l.containers = source :: rest := by
    cases hcontainers : l.containers with
    | nil => exact ⟨none, [], rfl⟩
    | cons c rest => exact ⟨some c, rest.map some, rfl⟩
  refine ⟨source, rest, hsources, ?_⟩
  intro n
  obtain ⟨u, hu, hpasses⟩ := h.passes hw
  rw [hsources] at hpasses
  obtain ⟨taken, v, hv, htake⟩ := h.takes_source source rest hu
  have hknown : source ∈ logSources l.containers := hsources ▸ List.mem_cons_self ..
  obtain ⟨l', v', hrounds⟩ := h.goes_on unbounded hknown rest n none taken hv
  exact ⟨l', v', (hpasses.trans htake).trans hrounds⟩

theorem not_ends (h : l.Fleeting S P) (unbounded : l.config.logs.minIdleTimeout = 0) (hw : P w) :
    ¬ ∃ happened, S.Ends LogLines.turn l.stream w happened := by
  obtain ⟨source, rest, -, hrounds⟩ := h.stays_with_first unbounded hw
  apply LogLines.not_ends
  intro n
  obtain ⟨l', v, hsilent⟩ := hrounds n
  exact ⟨_, l', v, by simp, hsilent⟩

/-- The bound on silence, which a valid configuration may leave out, decides whether reading comes
to its end: with one stream of each source if there is a bound, and never if there is none. -/
theorem ends_unless_unbounded (h : l.Fleeting S P) (hw : P w) :
    (∀ bound, { l.config with logs.minIdleTimeout := bound }.validate = l.config.validate) ∧
    (0 < l.config.logs.minIdleTimeout → ∃ happened, S.Ends LogLines.turn l.stream w happened ∧
      yields happened = [] ∧ logRequests happened =
        (logSources l.containers).map fun source => l.config.followRequest l.pod source none) ∧
    (l.config.logs.minIdleTimeout = 0 →
      (¬ ∃ happened, S.Ends LogLines.turn l.stream w happened) ∧
      ∃ source rest, logSources l.containers = source :: rest ∧ ∀ n, ∃ l' v,
        Silently S l.stream w (l.config.followRequest l.pod source none ::
          List.replicate n (l.config.followRequest l.pod source (some 0))) l' v) := by
  refine ⟨fun _ => rfl, ?_, ?_⟩
  · intro positive
    exact h.ends positive hw
  · intro unbounded
    exact ⟨h.not_ends unbounded hw, h.stays_with_first unbounded hw⟩

end PodLogs.Fleeting

/-! A pod that has started and whose logs are empty, in surroundings with one stream at a time. -/

def emptyLogs (bound : Nat) : PodLogs where
  config := { LogLines.hosted.config with logs.minIdleTimeout := bound }
  pod := "pod"
  containers := ["step-compile"]

def emptyLogsLines (r : Request) : List String :=
  if r.isForLog then [] else [LogServer.runningPod.notice]

def emptyLogsHost : Surroundings (List String) :=
  LogServer.oneStream (fun _ => LogServer.runningPod.document) emptyLogsLines

theorem fleeting_emptyLogs (bound : Nat) :
    (emptyLogs bound).Fleeting emptyLogsHost fun _ => True where
  stays _ _ _ := trivial
  started w _ := by
    have hstarted := (StartWait.started_iff _).mp LogServer.runningPod.started
    have hwatched : emptyLogsLines (Tracker.watch ⟨(emptyLogs bound).config, .pod, "pod"⟩).request =
        [LogServer.runningPod.notice] := by
      rw [emptyLogsLines, Tracker.watch_request_not_isForLog]
      rfl
    have hwait : ∃ v, emptyLogsHost.Returns StartWait.turn
        (Tracker.waitForStart ⟨(emptyLogs bound).config, .pod, "pod"⟩) w
        (.ok (some LogServer.runningPod.snapshot)) v :=
      LogServer.started_oneStream LogServer.runningPod.announced hwatched
        LogServer.runningPod.shown hstarted w
    exact ⟨_, hwait⟩
  closed source _ since w time w' _ now := by
    cases now
    have hlog := (emptyLogs bound).config.followRequest_isForLog "pod" source since
    have hopened : emptyLogsHost.answer
        (.openStream ((emptyLogs bound).config.followRequest "pod" source since)) w = (.ok 0, []) :=
      congrArg (Prod.mk (Except.ok 0)) (if_pos hlog)
    exact ⟨0, [], [], [], hopened, rfl, rfl⟩

theorem PodLogs.Fleeting.ends_unless_unbounded_bounded :
    (emptyLogs 60000).Fleeting emptyLogsHost (fun _ => True) ∧
      ∃ happened, emptyLogsHost.Ends LogLines.turn (emptyLogs 60000).stream [] happened ∧
        LogLines.logRequests happened =
          [(emptyLogs 60000).config.followRequest "pod" (some "step-compile") none] := by
  have hfleeting := fleeting_emptyLogs 60000
  have hreads := hfleeting.ends_unless_unbounded (w := []) trivial
  obtain ⟨happened, hends, -, hrequests⟩ := hreads.2.1 (by decide)
  exact ⟨hfleeting, happened, hends, hrequests⟩

/-- A valid configuration with which the logs are asked for without end. -/
theorem PodLogs.valid_without_end :
    (emptyLogs 0).config.validate = .ok () ∧ (emptyLogs 0).Fleeting emptyLogsHost (fun _ => True) ∧
      ¬ ∃ happened, emptyLogsHost.Ends LogLines.turn (emptyLogs 0).stream [] happened :=
  ⟨by decide +kernel, fleeting_emptyLogs 0, (fleeting_emptyLogs 0).not_ends rfl trivial⟩

end PipelineObserver
