import PipelineObserver.Proofs.Aggregate.Book
/-!
Interleaved logs lose nothing and repeat nothing, in whatever order batches are sent and lines are
asked for.
-/
namespace PipelineObserver.InterleavedLogs

variable {s s' : InterleavedLogs} {t : List Exchange}

theorem Book.fits_start (config : Config) :
    Book.Fits ⟨[], [], fun _ => TaskRunLogs.stream ⟨config, ""⟩, [], none⟩ config [] []
      { config := config } where
  configured := rfl
  active := rfl
  pulled := rfl
  sent := rfl
  gone := by simp
  settled := by simp
  paced := Nat.le_refl 0
  run := by simp
  distinct := List.nodup_nil
  inside := by simp [Book.live]
  ended := by simp
  known := by simp
  told := rfl

/-- No stream is left, and none will be started any more. -/
structure Finished (s : InterleavedLogs) : Prop where
  pulled : s.pulled = none
  active : s.active = []
  settled : s.discovering = false

theorem Finished.follows (h : Finished s) : s.turn.Follows [] (.turned (.yield (.ok none) s)) := by
  have hreceived : s.received = (none, s) := by
    simp [received, receiveAll, h.settled]
  have hadvance : s.advance = .turned (.yield (.ok none) s) := by
    unfold received at hreceived
    simp only [advance, hreceived, h.active, h.settled, Bool.false_eq_true, ↓reduceIte]
  exact (follows_turn_none h.pulled).mpr ⟨rfl, hadvance.symm⟩

theorem Finished.step {more : List Event} (h : Finished s) (hgone : s.senderGone = true)
    (hs : Step s more s') : more = [Event.ending] ∧ s' = s := by
  cases hs with
  | send _ here => cases here.symm.trans hgone
  | hangUp here => cases here.symm.trans hgone
  | turn ht =>
    obtain ⟨rfl, rfl⟩ := (follows_turn_none h.pulled).mp ht
    rw [← ((follows_turn_none h.pulled).mp h.follows).2]
    exact ⟨rfl, rfl⟩

/-- The end is told to every call, and nothing else happens any more. -/
def Silenced (s : InterleavedLogs) : Prop :=
  (∀ calls, ∃ s', Course s (List.replicate calls Event.ending) s') ∧
    ∀ more s', Course s more s' → ∃ calls, more = List.replicate calls Event.ending

theorem Finished.silenced (h : Finished s) (hgone : s.senderGone = true) : s.Silenced := by
  constructor
  · intro calls
    refine ⟨s, ?_⟩
    induction calls with
    | zero => exact .start
    | succ calls ih =>
      rw [List.replicate_succ']
      exact ih.step (.turn h.follows)
  · intro more s' course
    have hkept : s' = s ∧ ∃ calls, more = List.replicate calls Event.ending := by
      induction course with
      | start => exact ⟨rfl, 0, rfl⟩
      | step _ here ih =>
        obtain ⟨rfl, calls, rfl⟩ := ih
        obtain ⟨rfl, rfl⟩ := h.step hgone here
        exact ⟨rfl, calls + 1, List.replicate_succ'.symm⟩
    exact hkept.2

theorem Advances.finished {o : Advance} (ho : Advances s o) (hpulled : s.pulled = none)
    (h : Event.ending ∈ seen [] o) : seen [] o = [Event.ending] ∧ Finished (stateAfter o) := by
  cases ho with
  | fails _ => simp [seen, asked, Event.ending] at h
  | pulls _ _ => cases h
  | waits _ _ _ => cases h
  | @ends s' hs hactive hsettled =>
    have hs' : s'.pulled = s.pulled := by simpa [hs] using (received_keeps s).1
    exact ⟨rfl, hs'.trans hpulled, hactive, hsettled⟩

/-- The end is told only when no stream is left. -/
theorem Step.finished {more : List Event} (hs : Step s more s') (h : Event.ending ∈ more) :
    more = [Event.ending] ∧ Finished s' := by
  have hasked (t : List Exchange) : Event.ending ∉ asked t := by simp [asked, Event.ending]
  cases hs with
  | send _ _ => simp [Event.ending] at h
  | hangUp _ => simp [Event.ending] at h
  | @turn t _ ht =>
    cases hpulled : s.pulled with
    | none =>
      obtain ⟨rfl, rfl⟩ := (follows_turn_none hpulled).mp ht
      exact (advance_advances s).finished hpulled h
    | some stream =>
      obtain ⟨x, hx, rfl⟩ := (follows_turn_pulled hpulled).mp ht
      rcases x with l | ⟨e | _ | line, l⟩
      · exact absurd h (hasked t)
      · simp [seen, afterPull, asked, Event.ending] at h
      · exact absurd h (hasked t)
      · simp [seen, afterPull, asked, Event.ending] at h

/-- A turn waits only for what the discovery has not sent yet. -/
theorem waits_of_paced (paced : s.pulled = none → ∀ r, s.received = (none, r) →
      r.rotation ≤ r.active.length) (ht : s.turn.Follows t (.waiting s')) :
    s'.pulled = none ∧ s'.active = [] ∧ s'.inbox = [] ∧ s.senderGone = false := by
  cases hpulled : s.pulled with
  | some stream =>
    obtain ⟨x, -, hx⟩ := (follows_turn_pulled hpulled).mp ht
    cases hx
  | none =>
    obtain ⟨-, hadvance⟩ := (follows_turn_none hpulled).mp ht
    have hadvances := advance_advances s
    rw [← hadvance] at hadvances
    cases hadvances with
    | waits hs hactive hdiscovering =>
      have hkeeps := received_keeps s
      rw [hs] at hkeeps
      have hpaced := paced hpulled s' hs
      rw [hactive, hkeeps.2] at hpaced
      have hrotation : s.rotation = 0 := Nat.le_zero.mp hpaced
      refine ⟨hkeeps.1.trans hpulled, hactive, ?_⟩
      simp only [received, receiveAll, hrotation, ↓reduceIte] at hs
      split at hs
      · obtain ⟨hinbox, hsettled⟩ := receive_all hs
        have hopen := (Bool.and_eq_true_iff.mp (hsettled.symm.trans hdiscovering)).2
        exact ⟨hinbox, by simpa using hopen⟩
      · cases hs
        exact absurd hdiscovering ‹_›

theorem waits_for_discovery {b : Book} {config : Config} {events : List Event}
    (h : b.Fits config events s.inbox s) (ht : s.turn.Follows t (.waiting s')) :
    s'.pulled = none ∧ s'.active = [] ∧ s'.inbox = [] ∧ s.senderGone = false := by
  refine waits_of_paced (fun _ r hr => ?_) ht
  obtain ⟨b', hb', -⟩ := h.received hr
  exact hb'.paced

/-- A book can be kept of every course without a failure. Once the end is told, nothing else is. -/
theorem Course.fits {config : Config} {events : List Event}
    (course : Course { config := config } events s)
    (faultless : ∀ e, .happened (.yielded (.error e)) ∉ events) :
    ∃ b : Book, b.Fits config events s.inbox s ∧
      ∃ before ends, events = before ++ List.replicate ends Event.ending ∧
        Event.ending ∉ before ∧ (0 < ends → Finished s) := by
  induction course with
  | start => exact ⟨_, Book.fits_start config, [], 0, rfl, List.not_mem_nil, nofun⟩
  | @step events more s s' _ here ih =>
    obtain ⟨b, hb, before, ends, hevents, hbefore, hfinished⟩ :=
      ih fun e he => faultless e (List.mem_append_left _ he)
    obtain ⟨b', hb'⟩ := hb.step here fun e he => faultless e (List.mem_append_right _ he)
    refine ⟨b', hb', ?_⟩
    cases ends with
    | zero =>
      rw [List.replicate_zero, List.append_nil] at hevents
      by_cases hend : Event.ending ∈ more
      · obtain ⟨hmore, hs'⟩ := here.finished hend
        exact ⟨before, 1, by rw [hevents, hmore]; rfl, hbefore, fun _ => hs'⟩
      · refine ⟨before ++ more, 0, by rw [hevents]; simp, ?_, nofun⟩
        rw [List.mem_append, not_or]
        exact ⟨hbefore, hend⟩
    | succ ends =>
      -- After the end nothing is sent and no stream is left, so a step can only tell the end again.
      have hs := hfinished (Nat.succ_pos ends)
      obtain ⟨rfl, rfl⟩ := hs.step (hb.settled hs.settled).1 here
      refine ⟨before, ends + 2, ?_, hbefore, fun _ => hs⟩
      rw [hevents, List.append_assoc, ← List.replicate_succ']

/-- Nothing is lost and nothing is repeated, whatever batches are sent and whenever they are. Every
child that was sent has one stream, or is still to be received; what is seen is what happens to the
streams, each of which runs as it would by itself. A turn waits only for what the discovery has not
sent yet. The end is told once the discovery is over, every child has its stream and every stream
has ended, and then it is told for ever. -/
theorem every_stream_told_once (p : PipelineRun) (events : List Event) (s : InterleavedLogs)
    (course : Course p.interleavedLogs events s)
    (faultless : ∀ e, .happened (.yielded (.error e)) ∉ events) :
    ∃ (started : List ChildReference) (trace : Trace),
      started ++ children s.inbox = children (batches events) ∧
      (∀ i c, started[i]? = some c → ∃ lines, Run LogLines.turn
        (TaskRunLogs.stream ⟨p.config, c.name⟩) (trace.history i) lines) ∧
      (∀ x ∈ trace, x.1 < started.length) ∧
      told events = trace.shown started ∧
      (∀ t s', s.turn.Follows t (.waiting s') →
        s'.pulled = none ∧ s'.active = [] ∧ s'.inbox = [] ∧ s.senderGone = false) ∧
      ∃ before ends, events = before ++ List.replicate ends Event.ending ∧
        Event.ending ∉ before ∧
        (0 < ends → .hungUp ∈ before ∧ started = children (batches before) ∧
          (∀ i < started.length, ∃ h, trace.history i = h ++ [.yielded (.ok none)]) ∧
          s.Silenced) := by
  obtain ⟨b, hb, before, ends, hevents, hbefore, hfinished⟩ := course.fits faultless
  refine ⟨b.started, b.trace, hb.sent, ?_, hb.known, hb.told, fun _ _ => waits_for_discovery hb,
    before, ends, hevents, hbefore, ?_⟩
  · intro i c hi
    exact ⟨b.lines i, hb.run i c hi⟩
  · intro hends
    have hs := hfinished hends
    have hsettled := hb.settled hs.settled
    have hqueue : b.queue = [] := by simpa [hs.active] using hb.active.symm
    have hcurrent : b.current = none := by simpa [hs.pulled] using hb.pulled.symm
    have hsilent : batches (List.replicate ends Event.ending) = [] := by
      simp [batches, Event.ending]
    refine ⟨?_, ?_, ?_, hs.silenced hsettled.1⟩
    · have hgone := hb.gone.mp hsettled.1
      rw [hevents, List.mem_append] at hgone
      exact hgone.resolve_right (by simp [Event.ending])
    · have hsent := hb.sent
      rw [hsettled.2, hevents, batches_append, hsilent, List.append_nil] at hsent
      exact (List.append_nil _).symm.trans hsent
    · intro i hi
      exact hb.ended i hi (by simp [Book.live, hqueue, hcurrent])

/-! A task run that is gone when its stream is started. -/

def lostRun : PipelineRun := ⟨{ apiUrl := "https://api.example.test", «namespace» := "ns" }, "run"⟩

def lostChild : ChildReference := ⟨some "TaskRun", "run-build", some "build"⟩

def lostStream : TaskStream := ⟨"build", TaskRunLogs.stream ⟨lostRun.config, "run-build"⟩⟩

/-- The watch of the task run fails, and the task run is not found. -/
def lostExchanges : List Exchange :=
  [⟨.openStream (Tracker.watch ⟨lostRun.config, .taskRun, "run-build"⟩).request,
      .error (.connection "refused")⟩,
    ⟨.send (.get (lostRun.config.resourcePath .taskRun "run-build")), .ok ⟨404, ""⟩⟩]

def lostEvents : List Event :=
  [.sent (.ok [lostChild]), .hungUp] ++ asked lostExchanges ++ [Event.ending]

def lostEnd : InterleavedLogs :=
  { config := lostRun.config, senderGone := true, discovering := false }

theorem follows_lost (s : InterleavedLogs) :
    (turn { s with pulled := some lostStream }).Follows lostExchanges
      (.turned (.again { s with pulled := none })) := by
  have hturn : turn { s with pulled := some lostStream } =
      .ask (.openStream (Tracker.watch ⟨lostRun.config, .taskRun, "run-build"⟩).request) _ := rfl
  rw [hturn, Dialogue.follows_ask_iff]
  refine ⟨.error (.connection "refused"), _, rfl, ?_⟩
  exact .ask (.send (.get (lostRun.config.resourcePath .taskRun "run-build"))) _
    (Except.ok ⟨404, ""⟩) _ _ (.done _)

theorem course_lost : Course lostRun.interleavedLogs lostEvents lostEnd := by
  have hsent := Course.start.step (Step.send (s := lostRun.interleavedLogs) (.ok [lostChild]) rfl)
  have hgone := hsent.step (.hangUp rfl)
  have hpull : (turn (lostRun.interleavedLogs.deliver (.ok [lostChild])).hangUp).Follows []
      (.turned (.again { lostEnd with pulled := some lostStream })) := .done _
  have hend : (turn lostEnd).Follows [] (.turned (.yield (.ok none) lostEnd)) := .done _
  exact ((hgone.step (.turn hpull)).step (.turn (follows_lost lostEnd))).step (.turn hend)

/-- The child has its stream, which has ended, before the end is told, and then nothing else is. -/
theorem every_stream_told_once_lost : Course lostRun.interleavedLogs lostEvents lostEnd ∧
    (∀ e, .happened (.yielded (.error e)) ∉ lostEvents) ∧
    (∃ trace : Trace, told lostEvents = trace.shown [lostChild] ∧
      ∃ h, trace.history 0 = h ++ [.yielded (.ok none)]) ∧ lostEnd.Silenced := by
  have faultless : ∀ e, .happened (.yielded (.error e)) ∉ lostEvents := by
    simp [lostEvents, asked, Event.ending]
  obtain ⟨started, trace, hsent, -, -, htold, -, before, ends, hevents, hbefore, hends⟩ :=
    every_stream_told_once lostRun lostEvents lostEnd course_lost faultless
  have hstarted : started = [lostChild] := (List.append_nil started).symm.trans hsent
  have hpos : 0 < ends := by
    rcases Nat.eq_zero_or_pos ends with rfl | hpos
    · rw [List.replicate_zero, List.append_nil] at hevents
      exact absurd (hevents ▸ List.mem_append_right _ (List.mem_singleton_self _)) hbefore
    · exact hpos
  subst hstarted
  obtain ⟨-, -, hended, hsilenced⟩ := hends hpos
  exact ⟨course_lost, faultless, ⟨trace, htold, hended 0 Nat.one_pos⟩, hsilenced⟩
end PipelineObserver.InterleavedLogs
