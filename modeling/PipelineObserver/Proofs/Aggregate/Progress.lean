import PipelineObserver.Proofs.Aggregate.Losses
import PipelineObserver.Proofs.Courses
/-!
Interleaved logs come on, whatever the discovery does and whatever else happens meanwhile, as long
as the calls of the streams return: every visit is over some time, and so is every pass. What is
come to at last is told by `Following.Soon`.
-/
namespace PipelineObserver

variable {ω : Type}

/-- The call of a stream returns: after some turns it answers, whatever happens to the surroundings
between them. -/
inductive LogLines.Returning (S : Surroundings ω) (meanwhile : ω → ω → Prop) : LogLines → ω → Prop
  | turn {l : LogLines} {w : ω}
      (later : ∀ w' t l' v, meanwhile w w' → l.turn.Follows t (.again l') → S.Answers t w' v →
        Returning S meanwhile l' v) : Returning S meanwhile l w

/-- The calls of all streams return. This stays so whatever the other ones ask. -/
structure LogLines.Answering (S : Surroundings ω) (meanwhile : ω → ω → Prop) (config : Config)
    (P : LogLines → ω → Prop) : Prop where
  fresh : ∀ name w, P (TaskRunLogs.stream ⟨config, name⟩) w
  own : ∀ l t o w v, P l w → l.turn.Follows t o → S.Answers t w v → P o.state v
  other : ∀ l m t o w v, P l w → P m w → m.turn.Follows t o → S.Answers t w v → P l v
  meantime : ∀ l w v, P l w → meanwhile w v → P l v
  returns : ∀ l w, P l w → Returning S meanwhile l w

/-! ### What comes at last -/

namespace Following

open InterleavedLogs (Event seen stateAfter)

variable {x y : Following} {sent more : List Event}

/-- Any number of steps of the discovery, between two turns of the logs. -/
inductive Searches (x : Following) : List Event → Following → Prop
  | idle : Searches x [] x
  | step {sent more : List Event} {y z : Following} (before : Searches x sent y)
      (here : Search y more z) : Searches x (sent ++ more) z

/-- The discovery does nothing between two turns of the logs. -/
def Rests (x : Following) (sent : List Event) (y : Following) : Prop := sent = [] ∧ y = x

/-- However it goes on, a goal is come to after some turns of the logs: whatever the discovery does
between them, and whatever happens to the surroundings meanwhile. -/
inductive Soon (S : Surroundings ω) (meanwhile : ω → ω → Prop)
    (between : Following → List Event → Following → Prop)
    (goal : List Event → Following → ω → Prop) : List Event → Following → ω → Prop
  | now {events : List Event} {x : Following} {w : ω} (h : goal events x w) :
      Soon S meanwhile between goal events x w
  | turn {events : List Event} {x : Following} {w : ω}
      (later : ∀ sent y w' t o v, between x sent y → meanwhile w w' → y.logs.turn.Follows t o →
        S.Answers t w' v → Soon S meanwhile between goal (events ++ (sent ++ seen t o))
          ⟨y.discovery, stateAfter o⟩ v) :
      Soon S meanwhile between goal events x w

section Soon

variable {S : Surroundings ω} {meanwhile : ω → ω → Prop}
  {between : Following → List Event → Following → Prop}
  {goal goal' : List Event → Following → ω → Prop} {events : List Event} {w : ω}

theorem Soon.trans (h : Soon S meanwhile between goal events x w)
    (next : ∀ events x w, goal events x w → Soon S meanwhile between goal' events x w) :
    Soon S meanwhile between goal' events x w := by
  induction h with
  | now h => exact next _ _ _ h
  | turn _ ih =>
    exact .turn fun sent y w' t o v hsent hmeanwhile ht answers =>
      ih sent y w' t o v hsent hmeanwhile ht answers

theorem Soon.mono (h : Soon S meanwhile between goal events x w)
    (implies : ∀ events x w, goal events x w → goal' events x w) :
    Soon S meanwhile between goal' events x w :=
  h.trans fun events x w hgoal => .now (implies events x w hgoal)

/-- What happened before may be left out of account. -/
theorem Soon.after (before : List Event)
    (h : Soon S meanwhile between (fun more => goal (before ++ more)) events x w) :
    Soon S meanwhile between goal (before ++ events) x w := by
  induction h with
  | now h => exact .now h
  | turn _ ih =>
    refine .turn fun sent y w' t o v hsent hmeanwhile ht answers => ?_
    rw [List.append_assoc]
    exact ih sent y w' t o v hsent hmeanwhile ht answers

end Soon

namespace Searches

theorem course (h : Searches x sent y) : Course x sent y := by
  induction h with
  | idle => exact .start
  | step _ here ih => exact ih.step (.search here)

/-- The discovery leaves the streams alone. -/
theorem keeps (h : Searches x sent y) : y.logs.config = x.logs.config ∧
    y.logs.active = x.logs.active ∧ y.logs.pulled = x.logs.pulled ∧
    y.logs.rotation = x.logs.rotation := by
  induction h with
  | idle => exact ⟨rfl, rfl, rfl, rfl⟩
  | step _ here ih => cases here <;> exact ih

/-- A discovery that is over sends nothing. -/
theorem sends_nothing (h : Searches x sent y) (hover : x.discovery = none) :
    y.discovery = none ∧ y.logs.inbox = x.logs.inbox := by
  induction h with
  | idle => exact ⟨hover, rfl⟩
  | step _ here ih =>
    cases here with
    | searched _ | found _ | ended _ | failed _ => cases ih.1
    | hungUp _ => exact ih

end Searches

end Following

namespace InterleavedLogs

variable {s s' : InterleavedLogs} {t : List Exchange} {o : Advance}

/-! ### What a turn starts -/

/-- Streams join in at the end, and nothing has been asked of them. -/
theorem receive_joins (s : InterleavedLogs) (waiting : List ChildBatch) : ∃ joined,
    (s.receive waiting).2.active = s.active ++ joined ∧
      (s.receive waiting).2.config = s.config ∧
      joined.length + (children (s.receive waiting).2.inbox).length =
        (children waiting).length ∧
      ∀ st ∈ joined, ∃ name, st.lines = TaskRunLogs.stream ⟨s.config, name⟩ := by
  induction waiting generalizing s with
  | nil => exact ⟨[], (List.append_nil _).symm, rfl, rfl, fun _ hst => nomatch hst⟩
  | cons batch waiting ih =>
    cases batch with
    | error e =>
      have hreceive : s.receive (.error e :: waiting) = (some e, { s with inbox := waiting }) := rfl
      have hchildren : children (.error e :: waiting) = children waiting := rfl
      rw [hreceive, hchildren]
      exact ⟨[], (List.append_nil _).symm, rfl, Nat.zero_add _, fun _ hst => nomatch hst⟩
    | ok found =>
      obtain ⟨joined, hactive, hconfig, hlength, hjoined⟩ := ih (s.start found)
      refine ⟨_, hactive.trans (List.append_assoc ..), hconfig, ?_, ?_⟩
      · have hchildren : children (.ok found :: waiting) = found ++ children waiting := rfl
        rw [hchildren, List.length_append, List.length_append, List.length_map, ← hlength,
          Nat.add_assoc]
        rfl
      · intro st hst
        rcases List.mem_append.mp hst with hst | hst
        · obtain ⟨child, -, rfl⟩ := List.mem_map.mp hst
          exact ⟨child.name, rfl⟩
        · exact hjoined st hst

theorem received_joins (s : InterleavedLogs) : ∃ joined,
    s.received.2.active = s.active ++ joined ∧ s.received.2.config = s.config ∧
      joined.length + (children s.received.2.inbox).length = (children s.inbox).length ∧
      ∀ st ∈ joined, ∃ name, st.lines = TaskRunLogs.stream ⟨s.config, name⟩ := by
  have hidle : ∃ joined, s.active = s.active ++ joined ∧ s.config = s.config ∧
      joined.length + (children s.inbox).length = (children s.inbox).length ∧
      ∀ st ∈ joined, ∃ name, st.lines = TaskRunLogs.stream ⟨s.config, name⟩ :=
    ⟨[], (List.append_nil _).symm, rfl, Nat.zero_add _, fun _ hst => nomatch hst⟩
  unfold received receiveAll
  split
  · split
    · exact receive_joins s s.inbox
    · exact hidle
  · exact hidle

/-- Something is true of all streams that have not left. -/
structure All (P : LogLines → ω → Prop) (s : InterleavedLogs) (w : ω) : Prop where
  active : ∀ st ∈ s.active, P st.lines w
  pulled : ∀ st, s.pulled = some st → P st.lines w

section All

variable {S : Surroundings ω} {meanwhile : ω → ω → Prop} {config : Config}
  {P : LogLines → ω → Prop} {w v : ω}

theorem All.meantime (h : s.All P w) (answering : LogLines.Answering S meanwhile config P)
    (passes : meanwhile w v) : s.All P v where
  active := fun st hst => answering.meantime _ _ _ (h.active st hst) passes
  pulled := fun st hst => answering.meantime _ _ _ (h.pulled st hst) passes

theorem All.received (h : s.All P w) (answering : LogLines.Answering S meanwhile config P)
    (configured : s.config = config) : s.received.2.All P w := by
  obtain ⟨joined, hactive, -, -, hjoined⟩ := s.received_joins
  constructor
  · intro st hst
    rw [hactive] at hst
    rcases List.mem_append.mp hst with hst | hst
    · exact h.active st hst
    · obtain ⟨name, hlines⟩ := hjoined st hst
      rw [hlines, configured]
      exact answering.fresh name w
  · rw [(received_keeps s).1]
    exact h.pulled

/-- What is true of the streams whose calls return stays true through a turn. -/
theorem All.turn (h : s.All P w) (answering : LogLines.Answering S meanwhile config P)
    (configured : s.config = config) (ht : s.turn.Follows t o) (answers : S.Answers t w v) :
    (stateAfter o).All P v := by
  cases hpulled : s.pulled with
  | some st =>
    obtain ⟨y, hy, rfl⟩ := (follows_turn_pulled hpulled).mp ht
    have hst := h.pulled st hpulled
    have hown := answering.own _ _ _ _ _ hst hy answers
    have hothers : ∀ other ∈ s.active, P other.lines v := fun other hother =>
      answering.other _ _ _ _ _ _ (h.active other hother) hst hy answers
    rcases y with l | ⟨e | _ | line, l⟩
    · refine ⟨hothers, fun other hother => ?_⟩
      cases hother
      exact hown
    · exact ⟨hothers, fun _ hnone => nomatch hnone⟩
    · exact ⟨hothers, fun _ hnone => nomatch hnone⟩
    · exact ⟨List.forall_mem_append.mpr ⟨hothers, List.forall_mem_singleton.mpr hown⟩,
        fun _ hnone => nomatch hnone⟩
  | none =>
    obtain ⟨rfl, rfl⟩ := (follows_turn_none hpulled).mp ht
    cases answers
    have hreceived := h.received answering configured
    have hadvances := advance_advances s
    generalize s.advance = o at hadvances
    cases hadvances with
    | fails hs | waits hs | ends hs =>
      rw [hs] at hreceived
      exact hreceived
    | @pulls s' st rest hs hactive =>
      rw [hs] at hreceived
      obtain ⟨hst, hrest⟩ := List.forall_mem_cons.mp (hactive ▸ hreceived.active)
      refine ⟨hrest, fun other hother => ?_⟩
      cases hother
      exact hst

end All

/-- Between two visits, as long as there is an active stream, a turn meets a failure of the
discovery or asks the next stream. -/
theorem turn_of_active (pulled : s.pulled = none) (active : s.active ≠ [])
    (ht : s.turn.Follows t o) : t = [] ∧
      ((∃ e s', s.received = (some e, s') ∧ o = .turned (.yield (.error e) s')) ∨
        ∃ s', o = .turned (.again s') ∧ s'.pulled ≠ none ∧
          (s.rotation ≠ 0 → s'.rotation + 1 = s.rotation)) := by
  obtain ⟨rfl, rfl⟩ := (follows_turn_none pulled).mp ht
  obtain ⟨joined, hactive, -⟩ := s.received_joins
  have hrotation := (received_keeps s).2
  have hadvances := advance_advances s
  refine ⟨rfl, ?_⟩
  generalize s.advance = o at hadvances
  cases hadvances with
  | fails hs => exact .inl ⟨_, _, hs, rfl⟩
  | @pulls s' st rest hs _ =>
    rw [hs] at hrotation
    refine .inr ⟨_, rfl, nofun, fun under => ?_⟩
    rw [← hrotation] at under
    rw [← hrotation, if_neg under]
    exact Nat.sub_add_cancel (Nat.pos_of_ne_zero under)
  | waits hs hnone _ | ends hs hnone _ =>
    rw [hs, hnone] at hactive
    exact absurd (List.append_eq_nil_iff.mp hactive.symm).1 active

namespace Rota

open Following (Searches Soon)

/-- So many visits are over. -/
def Answered (rota : Rota) (n : Nat) : Prop :=
  ∃ past, past <+: visitsOf rota.passes ∧ (∀ v ∈ past, v.IsOver) ∧ n ≤ past.length

/-- What is true of a course and its rota as long as the calls of the streams return. -/
structure Standing (config : Config) (P : LogLines → ω → Prop) (rota : Rota) (x : Following)
    (w : ω) : Prop where
  fits : rota.Fits config x.logs.inbox x.logs
  settled : rota.Settled x.logs.inbox
  last : x.FailsLast (eventsOf rota.passes)
  connected : x.discovery.isSome → x.logs.senderGone = false
  streams : x.logs.All P w

/-- The rota goes on and each of its streams runs on, and then something is true. -/
def Comes (config : Config) (P : LogLines → ω → Prop) (goal : Rota → Following → Prop)
    (rota : Rota) (more : List Event) (y : Following) (v : ω) : Prop :=
  ∃ rota' : Rota, rota'.Standing config P y v ∧ rota.GoesOn more rota' ∧ rota.RunsOn rota' ∧
    goal rota' y

variable {rota rota' : Rota} {config : Config} {P : LogLines → ω → Prop} {x y : Following}
  {w v : ω} {sent more : List Event} {n : Nat} {goal goal' : Rota → Following → Prop}

theorem RunsOn.refl (rota : Rota) : rota.RunsOn rota :=
  .of_idle (List.prefix_refl _) fun _ => rfl

theorem GoesOn.answered (h : rota.GoesOn more rota') (answered : rota.Answered n) :
    rota'.Answered n := by
  obtain ⟨past, hpast, hover, hn⟩ := answered
  exact ⟨past, h.closed past hpast hover, hover, hn⟩

theorem Fits.answered (h : rota.Fits config x.logs.inbox x.logs) (pulled : x.logs.pulled = none) :
    rota.Answered (visitsOf rota.passes).length :=
  ⟨_, List.prefix_refl _, h.over_of_idle pulled, Nat.le_refl _⟩

/-- The visit that is made is not over. -/
theorem Asks.answered {before : List Visit} {latest : Visit} {st : TaskStream}
    (asks : rota.Asks before latest st) (answered : rota.Answered n) :
    n ≤ (visitsOf rota.earlier ++ before).length := by
  obtain ⟨past, hpast, hover, hn⟩ := answered
  rw [Fits.visitsOf_asks asks, List.prefix_concat_iff] at hpast
  rcases hpast with rfl | hpast
  · exact absurd (hover latest List.mem_concat_self) asks.isOpen.not_isOver
  · exact Nat.le_trans hn hpast.length_le

section Comes

variable {S : Surroundings ω} {meanwhile : ω → ω → Prop}

/-- What comes after a part of the course comes after the whole of it. -/
theorem soon_after (hgoes : rota.GoesOn more rota') (hruns : rota.RunsOn rota')
    (h : Soon S meanwhile Searches (rota'.Comes config P goal) [] y v) :
    Soon S meanwhile Searches (rota.Comes config P goal) more y v := by
  have hafter : Soon S meanwhile Searches
      (fun later => rota.Comes config P goal (more ++ later)) [] y v := by
    refine h.mono ?_
    rintro later z u ⟨last, hlast, hgoes', hruns', hgoal⟩
    exact ⟨last, hlast, hgoes.trans hgoes', hruns.trans hruns', hgoal⟩
  have hsoon := hafter.after more
  rwa [List.append_nil] at hsoon

/-- One goal after the other. -/
theorem soon_then (h : Soon S meanwhile Searches (rota.Comes config P goal) [] x w)
    (next : ∀ rota' y v more, rota'.Standing config P y v → rota.GoesOn more rota' →
      rota.RunsOn rota' → goal rota' y →
      Soon S meanwhile Searches (rota'.Comes config P goal') [] y v) :
    Soon S meanwhile Searches (rota.Comes config P goal') [] x w := by
  refine h.trans ?_
  rintro more y v ⟨rota', h', hgoes, hruns, hgoal⟩
  exact soon_after hgoes hruns (next rota' y v more h' hgoes hruns hgoal)

/-- A goal that follows from the one that is come to. -/
theorem soon_mono (h : Soon S meanwhile Searches (rota.Comes config P goal) [] x w)
    (implies : ∀ rota' y v more, rota'.Standing config P y v → rota.GoesOn more rota' →
      goal rota' y → goal' rota' y) :
    Soon S meanwhile Searches (rota.Comes config P goal') [] x w := by
  refine h.mono ?_
  rintro more y v ⟨rota', h', hgoes, hruns, hgoal⟩
  exact ⟨rota', h', hgoes, hruns, implies rota' y v more h' hgoes hgoal⟩

end Comes

namespace Standing

theorem of_continues (h : rota.Standing config P x w)
    (fits : rota'.Fits config y.logs.inbox y.logs)
    (continues : rota.Continues x.logs.inbox more rota' y.logs.inbox)
    (course : Following.Course x more y) (streams : y.logs.All P v) :
    rota'.Standing config P y v where
  fits := fits
  settled := continues.settled h.settled
  last := by
    rw [continues.goesOn.events]
    exact h.last.course course
  connected := (course.logs h.connected).2
  streams := streams

section Soon

variable {S : Surroundings ω} {meanwhile : ω → ω → Prop}

theorem searches (h : rota.Standing config P x w)
    (answering : LogLines.Answering S meanwhile config P) (hs : Searches x sent y)
    (passes : meanwhile w v) : ∃ rota' : Rota, rota'.Standing config P y v ∧
      rota.GoesOn sent rota' ∧ rota.RunsOn rota' := by
  obtain ⟨rota', hfits, hcontinues⟩ :=
    h.fits.course_continues (hs.course.logs h.connected).1
  obtain ⟨-, hactive, hpulled, -⟩ := hs.keeps
  have hstreams := h.streams.meantime answering passes
  have hstreams' : y.logs.All P v :=
    ⟨hactive.symm ▸ hstreams.active, hpulled.symm ▸ hstreams.pulled⟩
  exact ⟨rota', h.of_continues hfits hcontinues hs.course hstreams', hcontinues.goesOn,
    hcontinues.runsOn⟩

theorem turns (h : rota.Standing config P x w)
    (answering : LogLines.Answering S meanwhile config P) {t : List Exchange} {o : Advance}
    (ht : x.logs.turn.Follows t o) (answers : S.Answers t w v) : ∃ rota' : Rota,
      rota'.Standing config P ⟨x.discovery, stateAfter o⟩ v ∧ rota.GoesOn (seen t o) rota' ∧
      rota.RunsOn rota' := by
  obtain ⟨rota', hfits, hcontinues⟩ := h.fits.step (.turn ht)
  have hstreams := h.streams.turn answering h.fits.configured ht answers
  have hstart : Following.Course x [] x := .start
  exact ⟨rota', h.of_continues hfits hcontinues (hstart.step (.read ht)) hstreams,
    hcontinues.goesOn, hcontinues.runsOn⟩

/-- A goal that is come to after one turn, whatever happens before it. -/
theorem soon (h : rota.Standing config P x w)
    (answering : LogLines.Answering S meanwhile config P)
    (later : ∀ (now : Rota) sent y w' t o v, Searches x sent y → meanwhile w w' →
      now.Standing config P y w' → rota.GoesOn sent now → y.logs.turn.Follows t o →
      S.Answers t w' v → ∃ next : Rota, now.GoesOn (seen t o) next ∧ now.RunsOn next ∧
        Soon S meanwhile Searches (next.Comes config P goal) [] ⟨y.discovery, stateAfter o⟩ v) :
    Soon S meanwhile Searches (rota.Comes config P goal) [] x w := by
  refine .turn fun sent y w' t o v hs passes ht answers => ?_
  obtain ⟨now, hnow, hgoes, hruns⟩ := h.searches answering hs passes
  obtain ⟨next, hgoes', hruns', hsoon⟩ :=
    later now sent y w' t o v hs passes hnow hgoes ht answers
  exact soon_after (hgoes.trans hgoes') (hruns.trans hruns') hsoon

theorem soon_now (h : rota.Standing config P x w) (hgoal : goal rota x) :
    Soon S meanwhile Searches (rota.Comes config P goal) [] x w :=
  .now ⟨rota, h, .refl rota, .refl rota, hgoal⟩

/-- The stream that is asked answers. -/
theorem soon_answers (h : rota.Standing config P x w)
    (answering : LogLines.Answering S meanwhile config P) {st : TaskStream}
    (pulled : x.logs.pulled = some st) (answered : rota.Answered n) :
    Soon S meanwhile Searches (rota.Comes config P fun rota' y => y.logs.pulled = none ∧
      y.logs.rotation = x.logs.rotation ∧ rota'.Answered (n + 1)) [] x w := by
  have returns := answering.returns _ _ (h.streams.pulled st pulled)
  generalize hlines : st.lines = l at returns
  -- On the turns of the call: whatever the discovery does before one, it goes on with the call, or
  -- the visit is over.
  induction returns generalizing rota x st with
  | @turn l w _ ih =>
    subst hlines
    refine h.soon answering fun now sent y w' t o v hs passes hnow hgoes ht answers => ?_
    obtain ⟨-, -, hpulled, hrotation⟩ := hs.keeps
    rw [pulled] at hpulled
    obtain ⟨z, hz, rfl⟩ := (follows_turn_pulled hpulled).mp ht
    obtain ⟨before, latest, asks, settled, hfits⟩ := hnow.fits.pulls hpulled hz
    have hcontinues := hnow.fits.continues_pulls asks settled hz
    have hstreams := hnow.streams.turn answering hnow.fits.configured ht answers
    have hstart : Following.Course y [] y := .start
    have hnext := hnow.of_continues (y := ⟨y.discovery, _⟩) hfits hcontinues
      (hstart.step (.read ht)) hstreams
    refine ⟨_, hcontinues.goesOn, hcontinues.runsOn, ?_⟩
    rcases z with l | ⟨answer, l⟩
    · have hanswered := hcontinues.goesOn.answered (hgoes.answered answered)
      have hsoon := ih w' t l v passes hz answers hnext rfl hanswered rfl
      rw [← hrotation]
      exact hsoon
    · have hidle : (stateAfter (.turned (y.logs.afterPull st (.yield answer l)))).pulled = none ∧
          (stateAfter (.turned (y.logs.afterPull st (.yield answer l)))).rotation =
            y.logs.rotation := by
        rcases answer with e | _ | line <;> exact ⟨rfl, rfl⟩
      refine hnext.soon_now ⟨hidle.1, hidle.2.trans hrotation, ?_⟩
      have hover := hnext.fits.answered hidle.1
      have hn := asks.answered (hgoes.answered answered)
      rw [Fits.visitsOf_tell, List.length_append] at hover
      obtain ⟨past, hpast, hpastOver, hlength⟩ := hover
      exact ⟨past, hpast, hpastOver, Nat.le_trans (Nat.succ_le_succ hn) hlength⟩

/-- Without a failure of the discovery the next stream is asked. -/
theorem soon_asks_of_over (h : rota.Standing config P x w)
    (answering : LogLines.Answering S meanwhile config P) (pulled : x.logs.pulled = none)
    (active : x.logs.active ≠ []) (hover : x.discovery = none) (empty : x.logs.inbox = []) :
    Soon S meanwhile Searches (rota.Comes config P fun _ y => y.logs.pulled ≠ none) [] x w := by
  refine h.soon answering fun now sent y w' t o v hs _ hnow _ ht answers => ?_
  obtain ⟨-, hactive, hpulled, -⟩ := hs.keeps
  have hempty := (hs.sends_nothing hover).2.trans empty
  obtain ⟨next, hnext, hgoes, hruns⟩ := hnow.turns answering ht answers
  refine ⟨next, hgoes, hruns, hnext.soon_now ?_⟩
  rcases turn_of_active (hpulled.trans pulled) (hactive ▸ active) ht with
    ⟨-, ⟨e, s', hreceived, -⟩ | ⟨s', rfl, hasks, -⟩⟩
  · have hfailure := received_failure hreceived
    rw [hempty] at hfailure
    cases hfailure
  · exact hasks

/-- The next stream is asked, whether or not a failure of the discovery is met before. -/
theorem soon_asks (h : rota.Standing config P x w)
    (answering : LogLines.Answering S meanwhile config P) (pulled : x.logs.pulled = none)
    (active : x.logs.active ≠ []) : Soon S meanwhile Searches (rota.Comes config P fun _ y =>
      y.logs.pulled ≠ none ∧ (x.logs.rotation ≠ 0 → y.logs.rotation + 1 = x.logs.rotation))
      [] x w := by
  refine h.soon answering fun now sent y w' t o v hs _ hnow _ ht answers => ?_
  obtain ⟨-, hactive, hpulled, hrotation⟩ := hs.keeps
  obtain ⟨next, hnext, hgoes, hruns⟩ := hnow.turns answering ht answers
  refine ⟨next, hgoes, hruns, ?_⟩
  rcases turn_of_active (hpulled.trans pulled) (hactive ▸ active) ht with
    ⟨-, ⟨e, s', hreceived, rfl⟩ | ⟨s', rfl, hasks, hdown⟩⟩
  · -- It was the last thing that the discovery sent, and so it is not met again.
    obtain ⟨taken, hinbox, htaken⟩ := received_splits hreceived
    obtain ⟨hempty, -, found, hbatches, -⟩ := (hinbox ▸ hnow.settled).last htaken hnow.last
    have hover : y.discovery = none := by
      rcases hnow.last with hnone | ⟨hover, -⟩
      · rw [hbatches, failures_append] at hnone
        exact absurd hnone (by simp [failures])
      · exact hover
    obtain ⟨joined, hjoined, -⟩ := y.logs.received_joins
    have hkeeps := received_keeps y.logs
    rw [hreceived] at hjoined hkeeps
    have hactive' : s'.active ≠ [] := by
      rw [hjoined, hactive]
      exact fun hnil => active (List.append_eq_nil_iff.mp hnil).1
    have hpass : x.logs.rotation = 0 := by
      by_contra hne
      rw [← hrotation] at hne
      rw [received, if_neg hne] at hreceived
      cases hreceived
    have hidle : s'.pulled = none := hkeeps.1.trans (hpulled.trans pulled)
    refine soon_mono (hnext.soon_asks_of_over answering hidle hactive' hover hempty) ?_
    intro last z u more _ _ hasks
    exact ⟨hasks, fun hne => absurd hpass hne⟩
  · refine hnext.soon_now ⟨hasks, ?_⟩
    rw [← hrotation]
    exact hdown

/-- The next stream is asked and answers. -/
theorem soon_visits (h : rota.Standing config P x w)
    (answering : LogLines.Answering S meanwhile config P) (pulled : x.logs.pulled = none)
    (active : x.logs.active ≠ []) (answered : rota.Answered n) :
    Soon S meanwhile Searches (rota.Comes config P fun rota' y => y.logs.pulled = none ∧
      (x.logs.rotation ≠ 0 → y.logs.rotation + 1 = x.logs.rotation) ∧
      rota'.Answered (n + 1)) [] x w := by
  refine soon_then (h.soon_asks answering pulled active) ?_
  rintro rota' y v more h' hgoes - ⟨hasks, hdown⟩
  obtain ⟨st, hst⟩ := Option.ne_none_iff_exists'.mp hasks
  refine soon_mono (h'.soon_answers answering hst (hgoes.answered answered)) ?_
  rintro last z u rest - - ⟨hidle, hrotation, hanswered⟩
  refine ⟨hidle, fun hne => ?_, hanswered⟩
  rw [hrotation]
  exact hdown hne

/-- The stream that is asked answers, if there is one. -/
theorem soon_idle (h : rota.Standing config P x w)
    (answering : LogLines.Answering S meanwhile config P) : Soon S meanwhile Searches
      (rota.Comes config P fun _ y =>
        y.logs.pulled = none ∧ y.logs.rotation = x.logs.rotation) [] x w := by
  cases pulled : x.logs.pulled with
  | none => exact h.soon_now ⟨pulled, rfl⟩
  | some st =>
    have hnone : rota.Answered 0 := ⟨[], List.nil_prefix, nofun, Nat.le_refl 0⟩
    refine soon_mono (h.soon_answers answering pulled hnone) ?_
    rintro rota' y v more - - ⟨hidle, hrotation, -⟩
    exact ⟨hidle, hrotation⟩

/-- Every visit of those that are made or to be made is over some time. -/
theorem soon_answered (h : rota.Standing config P x w)
    (answering : LogLines.Answering S meanwhile config P) (hn : n ≤ rota.order.length) :
    Soon S meanwhile Searches (rota.Comes config P fun rota' y =>
      y.logs.pulled = none ∧ rota'.Answered n) [] x w := by
  -- On the number of visits that are over. The next one is over by then, or is made.
  induction n with
  | zero =>
    refine soon_mono (h.soon_idle answering) ?_
    rintro rota' y v more - - ⟨hidle, -⟩
    exact ⟨hidle, [], List.nil_prefix, nofun, Nat.le_refl 0⟩
  | succ n ih =>
    refine soon_then (ih (Nat.le_of_succ_le hn)) ?_
    rintro rota' y v more h' hgoes - ⟨hidle, hanswered⟩
    by_cases hvisits : n + 1 ≤ (visitsOf rota'.passes).length
    · obtain ⟨past, hpast, hover, hlength⟩ := h'.fits.answered hidle
      exact h'.soon_now ⟨hidle, past, hpast, hover, Nat.le_trans hvisits hlength⟩
    · -- The visit is still to be made, and so there is an active stream.
      have horder := Nat.le_trans hn hgoes.order.length_le
      rw [Rota.order, List.length_append, List.length_map] at horder
      have hactive : y.logs.active ≠ [] := by
        intro hnone
        have hlength := congrArg List.length h'.fits.active
        rw [hnone, List.length_map, List.length_map, List.length_nil] at hlength
        omega
      refine soon_mono (h'.soon_visits answering hidle hactive hanswered) ?_
      rintro last z u rest - - ⟨hidle', -, hanswered'⟩
      exact ⟨hidle', hanswered'⟩

/-- The pass comes to its end. -/
theorem soon_over (h : rota.Standing config P x w)
    (answering : LogLines.Answering S meanwhile config P) : Soon S meanwhile Searches
      (rota.Comes config P fun _ y => y.logs.pulled = none ∧ y.logs.rotation = 0) [] x w := by
  refine soon_then (h.soon_idle answering) ?_
  rintro rota' y v - h' - - ⟨pulled, -⟩
  generalize hleft : y.logs.rotation = left
  -- On the visits that are left in the pass. What joins in meanwhile does not add to them.
  induction left generalizing rota' y v with
  | zero => exact h'.soon_now ⟨pulled, hleft⟩
  | succ left ih =>
    have hactive : y.logs.active ≠ [] := by
      intro hnone
      have hpaced := h'.fits.paced
      rw [hleft, hnone] at hpaced
      cases hpaced
    refine soon_then (h'.soon_visits answering pulled hactive (h'.fits.answered pulled)) ?_
    rintro rota'' z u - h'' - - ⟨hidle, hdown, -⟩
    refine ih rota'' z u h'' hidle ?_
    have hrotation := hdown (by rw [hleft]; exact Nat.succ_ne_zero left)
    omega

/-- A turn at the end of a pass receives all that was sent. -/
theorem receives (h : rota.Standing config P x w) (pulled : x.logs.pulled = none)
    (rotation : x.logs.rotation = 0) {t : List Exchange} {o : Advance}
    (ht : x.logs.turn.Follows t o) : (stateAfter o).inbox = [] := by
  obtain ⟨rfl, rfl⟩ := (follows_turn_none pulled).mp ht
  have hadvances := advance_advances x.logs
  generalize x.logs.advance = o at hadvances
  cases hadvances with
  | fails hs =>
    obtain ⟨taken, hinbox, htaken⟩ := received_splits hs
    exact ((hinbox ▸ h.settled).last htaken h.last).1
  | pulls hs _ | waits hs _ _ | ends hs _ _ =>
    have hempty := h.fits.inbox_eq_nil hs rotation
    exact hempty

/-- Whatever was sent is received some time. -/
theorem soon_received (h : rota.Standing config P x w)
    (answering : LogLines.Answering S meanwhile config P) : Soon S meanwhile Searches
      (rota.Comes config P fun _ y => y.logs.inbox = []) [] x w := by
  refine soon_then (h.soon_over answering) ?_
  rintro rota' y v - h' - - ⟨pulled, rotation⟩
  refine h'.soon answering fun now sent z v' t o u hs _ hnow _ ht answers => ?_
  obtain ⟨-, -, hpulled, hrotation⟩ := hs.keeps
  obtain ⟨next, hnext, hgoes, hruns⟩ := hnow.turns answering ht answers
  exact ⟨next, hgoes, hruns, hnext.soon_now
    (hnow.receives (hpulled.trans pulled) (hrotation.trans rotation) ht)⟩

theorem all_received (h : rota.Standing config P x w) (empty : x.logs.inbox = []) :
    rota.started = found (eventsOf rota.passes) ∧
      failuresOf rota.passes = failures (batches (eventsOf rota.passes)) := by
  obtain ⟨received, hbatches, hmet⟩ := h.settled
  rw [empty, List.append_nil] at hbatches
  refine ⟨(empty ▸ h.fits).all_started, ?_⟩
  rw [hbatches, hmet]

end Soon

end Standing

end Rota

end InterleavedLogs

end PipelineObserver
