import Mathlib.Data.List.Basic
import PipelineObserver.Proofs.Watch.Budgets
import PipelineObserver.Proofs.Watch.Items
import PipelineObserver.Tracker.StartWait
/-!
Waiting for a start: the wait ends with the first snapshot that shows it, however it was fetched, and
it believes that the resource is gone only after looking it up once more.
-/
namespace PipelineObserver.StartWait

/-- The first condition of the resource is true, false, or unknown because it is running. -/
def Started (s : Snapshot) : Prop :=
  ∃ c, s.conditions.head? = some c ∧
    (c.status = .true ∨ c.status = .false ∨ c.status = .unknown ∧ c.reason = "Running")

theorem started_iff (s : Snapshot) : s.hasStarted = true ↔ Started s := by
  have hcondition (c : Condition) : c.hasStarted = true ↔
      c.status = .true ∨ c.status = .false ∨ c.status = .unknown ∧ c.reason = "Running" := by
    obtain ⟨status, reason, message, time⟩ := c
    cases status <;> simp [Condition.hasStarted, Condition.isRunning, ConditionStatus.isTerminal,
      Condition.runningReason]
  simp only [Snapshot.hasStarted, Snapshot.condition?, Option.any_eq_true, hcondition, Started]

/-- The watch does not say whether the resource is there. -/
def Doubtful (item : WatchItem) : Prop := item = .absent ∨ item = .unknown

theorem Doubtful.unseen {item : WatchItem} (h : Doubtful item) : snapshots [.ok (some item)] = [] := by
  rcases h with rfl | rfl <;> rfl

/-! ### One turn -/

variable {w : StartWait} {t : List Exchange} {o : Outcome}

/-- The steps of a wait, each with a turn of its watch and the look-up that may come after it. -/
inductive Step (w : StartWait) : List Exchange → Outcome → Prop
  | silent {t : List Exchange} {ch : WatchChannel} (h : w.channel.turn.Follows t (.again ch)) :
      Step w t (.again ⟨ch⟩)
  | failed {t : List Exchange} {e : Failure} {ch : WatchChannel}
      (h : w.channel.turn.Follows t (.yield (.error e) ch)) : Step w t (.yield (.error e) ⟨ch⟩)
  | exhausted {t : List Exchange} {ch : WatchChannel}
      (h : w.channel.turn.Follows t (.yield (.ok none) ch)) : Step w t (.yield (.ok none) ⟨ch⟩)
  | shown {t : List Exchange} {s : Snapshot} {ch : WatchChannel}
      (h : w.channel.turn.Follows t (.yield (.ok (some (.snapshot s))) ch)) :
      Step w t (examine ⟨ch⟩ s)
  | doubted {t : List Exchange} {item : WatchItem} {ch : WatchChannel}
      (answer : Except Failure Response) (doubtful : Doubtful item)
      (h : w.channel.turn.Follows t (.yield (.ok (some item)) ch)) :
      Step w (t ++ [ch.target.lookedUp answer])
        (rechecked ⟨ch⟩ (answer.bind (Response.snapshot? ch.target.kind)))

theorem step_of_follows (ht : w.turn.Follows t o) : Step w t o := by
  rw [turn, Dialogue.bind_eq] at ht
  obtain ⟨u, v, c, rfl, hc, hrest⟩ := Dialogue.follows_bind_iff.mp ht
  have hrecheck {item : WatchItem} {ch : WatchChannel} (doubtful : Doubtful item)
      (hc : w.channel.turn.Follows u (.yield (.ok (some item)) ch))
      (hrest : (ch.target.snapshot.run.bind fun found =>
        .done (rechecked ⟨ch⟩ found)).Follows v o) : Step w (u ++ v) o := by
    rw [Tracker.snapshot_run, Dialogue.bind_ask] at hrest
    obtain ⟨answer, rest, rfl, hdone⟩ := Dialogue.follows_ask_iff.mp hrest
    obtain ⟨rfl, rfl⟩ := Dialogue.follows_done_iff.mp hdone
    exact .doubted answer doubtful hc
  rcases c with ch | ⟨e | _ | s | _ | _, ch⟩
  case yield.ok.some.absent => exact hrecheck (.inl rfl) hc hrest
  case yield.ok.some.unknown => exact hrecheck (.inr rfl) hc hrest
  all_goals
    obtain ⟨rfl, rfl⟩ := Dialogue.follows_done_iff.mp hrest
    rw [List.append_nil]
  case again => exact .silent hc
  case yield.error => exact .failed hc
  case yield.ok.none => exact .exhausted hc
  case yield.ok.some.snapshot => exact .shown hc

theorem Step.follows (hs : Step w t o) : w.turn.Follows t o := by
  have hbind {c : WatchChannel.Outcome} {f : WatchChannel.Outcome → Dialogue Outcome}
      {u v : List Exchange} (hc : w.channel.turn.Follows u c) (hrest : (f c).Follows v o) :
      (w.channel.turn >>= f).Follows (u ++ v) o := by
    rw [Dialogue.bind_eq]
    exact Dialogue.follows_bind_iff.mpr ⟨u, v, c, rfl, hc, hrest⟩
  have hquiet {c : WatchChannel.Outcome} {f : WatchChannel.Outcome → Dialogue Outcome}
      (hc : w.channel.turn.Follows t c) (hrest : f c = .done o) :
      (w.channel.turn >>= f).Follows t o := by
    have hdone : (f c).Follows [] o := by
      rw [hrest]
      exact .done o
    simpa using hbind hc hdone
  unfold turn
  cases hs with
  | silent h => exact hquiet h rfl
  | failed h => exact hquiet h rfl
  | exhausted h => exact hquiet h rfl
  | shown h => exact hquiet h rfl
  | @doubted t item ch answer doubtful h =>
    have hask : (ch.target.snapshot.run.bind fun found => .done (rechecked ⟨ch⟩ found)).Follows
        [ch.target.lookedUp answer]
        (rechecked ⟨ch⟩ (answer.bind (Response.snapshot? ch.target.kind))) := by
      rw [Tracker.snapshot_run, Dialogue.bind_ask]
      exact Dialogue.follows_ask_iff.mpr ⟨answer, [], rfl, .done _⟩
    refine hbind h ?_
    rcases doubtful with rfl | rfl
    · exact hask
    · exact hask

theorem examine_started (w : StartWait) {s : Snapshot} (h : Started s) :
    w.examine s = .yield (.ok (some s)) w := if_pos ((started_iff s).mpr h)

theorem examine_unstarted (w : StartWait) {s : Snapshot} (h : ¬ Started s) :
    w.examine s = .again w := if_neg (fun hs => h ((started_iff s).mp hs))

/-! A wait whose watch is connected at once, and whose first event is answered with a start. -/

/-- A wait whose watch has its first stream. -/
def watching (tracker : Tracker) (id : StreamId) : StartWait :=
  ⟨{ tracker.watch.tried with stream := some id, state := .streaming }⟩

theorem follows_connecting (tracker : Tracker) (id : StreamId) :
    tracker.waitForStart.turn.Follows [⟨.openStream tracker.watch.request, .ok id⟩]
      (.again (watching tracker id)) := by
  have hconnected : WatchChannel.Step tracker.watch [⟨.openStream tracker.watch.request, .ok id⟩]
      (.again (watching tracker id).channel) := .connected id rfl
  have hstep : Step tracker.waitForStart _ (.again (watching tracker id)) :=
    .silent hconnected.follows
  exact hstep.follows

theorem follows_starting {tracker : Tracker} (id : StreamId) {notice : String} {answer : Response}
    {s : Snapshot} (announced : WatchChannel.announces notice = true)
    (shown : answer.snapshot? tracker.kind = .ok (some s)) (started : Started s) :
    (watching tracker id).turn.Follows
      [⟨.readLine id, .ok (some notice)⟩, tracker.lookedUp (.ok answer)]
      (.yield (.ok (some s)) (watching tracker id)) := by
  have hshown : (Except.ok answer : Except Failure Response).bind
      (Response.snapshot? tracker.kind) = .ok (some s) := shown
  have hfound : WatchItem.ofAnswer tracker.kind (.ok answer) = .ok (.snapshot s) := by
    rw [WatchItem.ofAnswer, hshown]
  have hevent : WatchChannel.Step (watching tracker id).channel
      [⟨.readLine id, .ok (some notice)⟩, tracker.lookedUp (.ok answer)]
      (.yield (.ok (some (.snapshot s))) (watching tracker id).channel) :=
    .event id notice (.ok answer) _ ⟨rfl, rfl⟩ announced hfound
  have hstep : Step (watching tracker id) _ _ := .shown hevent.follows
  rw [examine_started _ started] at hstep
  exact hstep.follows

/-! ### The look-ups of a wait -/

/-- What a wait asks while its watch has its course: all that the watch asks, and a look-up more
after each item that leaves a doubt. -/
inductive Rechecked (t : Tracker) : Tracker.Course → List Exchange → Prop
  | start : Rechecked t [] []
  | asked {told : Tracker.Course} {asked : List Exchange} (e : Exchange)
      (before : Rechecked t told asked) : Rechecked t (told ++ [.exchanged e]) (asked ++ [e])
  | certain {told : Tracker.Course} {asked : List Exchange}
      {a : Except Failure (Option WatchItem)} (h : ∀ item, Doubtful item → a ≠ .ok (some item))
      (before : Rechecked t told asked) : Rechecked t (told ++ [.yielded a]) asked
  | doubted {told : Tracker.Course} {asked : List Exchange} {item : WatchItem}
      (doubtful : Doubtful item) (answer : Except Failure Response)
      (before : Rechecked t told asked) :
      Rechecked t (told ++ [.yielded (.ok (some item))]) (asked ++ [t.lookedUp answer])

variable {tracker : Tracker} {told : Tracker.Course} {asked : List Exchange}

theorem Rechecked.append (h : Rechecked tracker told asked) (t : List Exchange) :
    Rechecked tracker (told ++ t.map .exchanged) (asked ++ t) := by
  induction t generalizing told asked with
  | nil => simpa using h
  | cons e t ih =>
    have hmore := ih (h.asked e)
    rwa [List.append_assoc, List.append_assoc] at hmore

theorem Rechecked.silent (h : Rechecked tracker told asked) (ch : WatchChannel) :
    Rechecked tracker (told ++ (Turn.again ch : WatchChannel.Outcome).happenings t) (asked ++ t) :=
  h.append t

theorem Rechecked.told_certain (h : Rechecked tracker told asked)
    {a : Except Failure (Option WatchItem)} (ha : ∀ item, Doubtful item → a ≠ .ok (some item))
    (ch : WatchChannel) : Rechecked tracker (told ++ (Turn.yield a ch).happenings t) (asked ++ t) := by
  have hmore := (h.append t).certain ha
  rwa [List.append_assoc] at hmore

theorem Rechecked.told_doubtful (h : Rechecked tracker told asked) {item : WatchItem}
    (doubtful : Doubtful item) (answer : Except Failure Response) (ch : WatchChannel) :
    Rechecked tracker (told ++ (Turn.yield (.ok (some item)) ch).happenings t)
      (asked ++ (t ++ [tracker.lookedUp answer])) := by
  have hmore := (h.append t).doubted doubtful answer
  rwa [List.append_assoc, List.append_assoc] at hmore

/-! ### A wait that goes on -/

/-- What is true of a wait as long as it goes on. -/
structure Pending (tracker : Tracker) (told : Tracker.Course) (asked : List Exchange)
    (w : StartWait) : Prop where
  run : Run WatchChannel.turn tracker.watch told w.channel
  rechecked : Rechecked tracker told asked
  unstarted : ∀ s ∈ fetched tracker.kind asked, ¬ Started s
  faultless : ∀ e, .error e ∉ yields told

theorem Pending.target (h : Pending tracker told asked w) : w.channel.target = tracker :=
  (WatchChannel.kept_of_run h.run).target

theorem Pending.target_turn (h : Pending tracker told asked w) {c : WatchChannel.Outcome}
    (hc : w.channel.turn.Follows t c) : c.state.target = tracker :=
  (WatchChannel.kept_of_run (h.run.then_turn hc)).target

theorem Pending.fetched_turn (h : Pending tracker told asked w) {c : WatchChannel.Outcome}
    (hc : w.channel.turn.Follows t c) :
    fetched tracker.kind (asked ++ t) = fetched tracker.kind asked ++ snapshots c.yields := by
  have hfetched := (WatchChannel.step_of_follows hc).fetched
  rw [h.target] at hfetched
  rw [fetched_append, hfetched]

theorem Pending.faultless_turn (h : Pending tracker told asked w) {c : WatchChannel.Outcome}
    (hc : ∀ e, .error e ∉ c.yields) : ∀ e, .error e ∉ yields (told ++ c.happenings t) := by
  intro e he
  rw [yields_append, yields_happenings] at he
  rcases List.mem_append.mp he with he | he
  · exact h.faultless e he
  · exact hc e he

theorem fetched_lookedUp (tracker : Tracker) {answer : Except Failure Response}
    {found : Option Snapshot} (h : answer.bind (Response.snapshot? tracker.kind) = .ok found) :
    fetched tracker.kind [tracker.lookedUp answer] = found.toList := by
  rw [fetched_singleton]
  simp [Exchange.snapshot?, Tracker.lookedUp, h]

theorem fetched_lookedUp_failed (tracker : Tracker) {answer : Except Failure Response}
    {e : Failure} (h : answer.bind (Response.snapshot? tracker.kind) = .error e) :
    fetched tracker.kind [tracker.lookedUp answer] = [] := by
  rw [fetched_singleton]
  simp [Exchange.snapshot?, Tracker.lookedUp, h]

/-- How a wait ends. -/
inductive Verdict (tracker : Tracker) (told : Tracker.Course) (asked : List Exchange)
    (ch : WatchChannel) : Except Failure (Option Snapshot) → Prop
  -- What was fetched last is the first that shows a start.
  | started {before : List Exchange} {answer : Except Failure Response} {s : Snapshot}
      (last : asked = before ++ [tracker.lookedUp answer])
      (shown : answer.bind (Response.snapshot? tracker.kind) = .ok (some s)) (h : Started s)
      (first : ∀ r ∈ fetched tracker.kind before, ¬ Started r) :
      Verdict tracker told asked ch (.ok (some s))
  -- The watch left a doubt, and then the resource was not found.
  | gone {course : Tracker.Course} {item : WatchItem} {before : List Exchange} {r : Response}
      (doubtful : Doubtful item) (doubt : told = course ++ [.yielded (.ok (some item))])
      (earlier : Rechecked tracker course before)
      (last : asked = before ++ [tracker.lookedUp (.ok r)]) (missing : r.status = 404)
      (unstarted : ∀ s ∈ fetched tracker.kind asked, ¬ Started s) :
      Verdict tracker told asked ch (.ok none)
  | exhausted (h : ch.state = .exhausted)
      (unstarted : ∀ s ∈ fetched tracker.kind asked, ¬ Started s) :
      Verdict tracker told asked ch (.ok none)
  | failed {before : List Exchange} {x : Exchange} {e : Failure} (last : asked = before ++ [x])
      (h : x.failure? tracker.kind = some e) (hard : e.isTransient = false)
      (unstarted : ∀ s ∈ fetched tracker.kind asked, ¬ Started s) :
      Verdict tracker told asked ch (.error e)

/-- Where a wait has come to after a turn. -/
def Outcome.Fits (tracker : Tracker) (told : Tracker.Course) (asked : List Exchange) :
    Outcome → Prop
  | .again w => Pending tracker told asked w
  | .yield result w => Run WatchChannel.turn tracker.watch told w.channel ∧
      Rechecked tracker told asked ∧ Verdict tracker told asked w.channel result

theorem Pending.silent (h : Pending tracker told asked w) {ch : WatchChannel}
    (hc : w.channel.turn.Follows t (.again ch)) :
    Pending tracker (told ++ (Turn.again ch : WatchChannel.Outcome).happenings t) (asked ++ t) ⟨ch⟩
    where
  run := h.run.then_turn hc
  rechecked := h.rechecked.silent ch
  unstarted := by
    rw [h.fetched_turn hc, Turn.yields_again]
    simpa [snapshots] using h.unstarted
  faultless := h.faultless_turn nofun

theorem Pending.exhausted (h : Pending tracker told asked w) {ch : WatchChannel}
    (hc : w.channel.turn.Follows t (.yield (.ok none) ch)) :
    ch.state = .exhausted ∧ fetched tracker.kind (asked ++ t) = fetched tracker.kind asked := by
  have hfetched := h.fetched_turn hc
  cases WatchChannel.step_of_follows hc with
  | ended hover =>
    refine ⟨hover.resolve_right fun hfailed => ?_, hfetched.trans (List.append_nil _)⟩
    obtain ⟨e, he⟩ := (WatchChannel.failed_iff_told h.run).mp hfailed
    exact h.faultless e he

theorem Pending.shown (h : Pending tracker told asked w) {s : Snapshot} {ch : WatchChannel}
    (hc : w.channel.turn.Follows t (.yield (.ok (some (.snapshot s))) ch)) :
    ∃ told', Outcome.Fits tracker told' (asked ++ t) (examine ⟨ch⟩ s) := by
  refine ⟨told ++ (Turn.yield (.ok (some (.snapshot s))) ch).happenings t, ?_⟩
  have hrechecked := h.rechecked.told_certain (t := t) (a := .ok (some (.snapshot s)))
    (by rintro item (rfl | rfl) heq <;> cases heq) ch
  have hfetched := h.fetched_turn hc
  by_cases hs : Started s
  · rw [examine_started _ hs]
    obtain ⟨id, line, answer, ht, hshown⟩ := (WatchChannel.step_of_follows hc).shown
    rw [h.target] at ht hshown
    refine ⟨h.run.then_turn hc, hrechecked, ?_⟩
    subst ht
    have hlast : asked ++ [⟨.readLine id, .ok (some line)⟩, tracker.lookedUp answer] =
        (asked ++ [⟨.readLine id, .ok (some line)⟩]) ++ [tracker.lookedUp answer] := by simp
    refine .started hlast hshown hs ?_
    rw [fetched_append]
    simpa [fetched, Exchange.snapshot?] using h.unstarted
  · rw [examine_unstarted _ hs]
    exact {
      run := h.run.then_turn hc
      rechecked := hrechecked
      unstarted := by
        rw [hfetched]
        simpa [snapshots, or_imp, forall_and, hs] using h.unstarted
      faultless := h.faultless_turn (by simp) }

theorem Pending.doubted (h : Pending tracker told asked w) {item : WatchItem} {ch : WatchChannel}
    (doubtful : Doubtful item) (answer : Except Failure Response)
    (hc : w.channel.turn.Follows t (.yield (.ok (some item)) ch)) :
    ∃ told', Outcome.Fits tracker told' (asked ++ (t ++ [ch.target.lookedUp answer]))
      (StartWait.rechecked ⟨ch⟩ (answer.bind (Response.snapshot? ch.target.kind))) := by
  refine ⟨told ++ (Turn.yield (.ok (some item)) ch).happenings t, ?_⟩
  have htarget : ch.target = tracker := h.target_turn hc
  rw [htarget]
  have hfetched : fetched tracker.kind (asked ++ (t ++ [tracker.lookedUp answer])) =
      fetched tracker.kind asked ++ fetched tracker.kind [tracker.lookedUp answer] := by
    rw [← List.append_assoc, fetched_append, h.fetched_turn hc, Turn.yields_yield,
      doubtful.unseen, List.append_nil]
  have hlast : asked ++ (t ++ [tracker.lookedUp answer]) =
      (asked ++ t) ++ [tracker.lookedUp answer] := (List.append_assoc ..).symm
  have hrun := h.run.then_turn hc
  have hrechecked := h.rechecked.told_doubtful (t := t) doubtful answer ch
  -- The wait goes on unless the look-up itself shows a start.
  have hpending (hunstarted : ∀ s ∈ fetched tracker.kind [tracker.lookedUp answer], ¬ Started s) :
      Pending tracker (told ++ (Turn.yield (.ok (some item)) ch).happenings t)
        (asked ++ (t ++ [tracker.lookedUp answer])) ⟨ch⟩ := {
    run := hrun
    rechecked := hrechecked
    unstarted := by
      rw [hfetched]
      exact List.forall_mem_append.mpr ⟨h.unstarted, hunstarted⟩
    faultless := h.faultless_turn (by simp) }
  rcases ha : answer.bind (Response.snapshot? tracker.kind) with e | _ | s
  · have hgoes := hpending (by simp [fetched_lookedUp_failed tracker ha])
    cases he : e.isTransient with
    | true =>
      rw [StartWait.rechecked, if_pos he]
      exact hgoes
    | false =>
      rw [StartWait.rechecked, if_neg (by simp [he])]
      refine ⟨hrun, hrechecked, .failed hlast ?_ he hgoes.unstarted⟩
      simp [Exchange.failure?, Tracker.lookedUp, ha]
  · have hgoes := hpending (by simp [fetched_lookedUp tracker ha])
    obtain ⟨r, rfl, hmissing⟩ := missing_of_lookedUp ha
    have hdoubt : told ++ (Turn.yield (.ok (some item)) ch).happenings t =
        (told ++ t.map .exchanged) ++ [.yielded (.ok (some item))] := (List.append_assoc ..).symm
    exact ⟨hrun, hrechecked,
      .gone doubtful hdoubt (h.rechecked.append t) hlast hmissing hgoes.unstarted⟩
  · by_cases hs : Started s
    · rw [StartWait.rechecked, examine_started _ hs]
      refine ⟨hrun, hrechecked, .started hlast ha hs ?_⟩
      rw [h.fetched_turn hc, Turn.yields_yield, doubtful.unseen, List.append_nil]
      exact h.unstarted
    · rw [StartWait.rechecked, examine_unstarted _ hs]
      exact hpending (by simpa [fetched_lookedUp tracker ha] using hs)

theorem Pending.step (h : Pending tracker told asked w) (hs : Step w t o) :
    ∃ told', Outcome.Fits tracker told' (asked ++ t) o := by
  cases hs with
  | silent hc => exact ⟨_, h.silent hc⟩
  | @failed t e ch hc =>
    have hrechecked := h.rechecked.told_certain (t := t) (a := .error e) (by simp) ch
    obtain ⟨hard, before, x, rfl, hx⟩ := (WatchChannel.step_of_follows hc).failure
    rw [h.target] at hx
    refine ⟨_, h.run.then_turn hc, hrechecked, .failed (List.append_assoc ..).symm hx hard ?_⟩
    rw [h.fetched_turn hc]
    simpa [snapshots] using h.unstarted
  | @exhausted t ch hc =>
    have hrechecked := h.rechecked.told_certain (t := t) (a := .ok none) (by simp) ch
    obtain ⟨hexhausted, hfetched⟩ := h.exhausted hc
    exact ⟨_, h.run.then_turn hc, hrechecked, .exhausted hexhausted (hfetched ▸ h.unstarted)⟩
  | shown hc => exact h.shown hc
  | doubted answer doubtful hc => exact h.doubted doubtful answer hc

/-! ### Whole waits -/

theorem pending_start (tracker : Tracker) : Pending tracker [] [] tracker.waitForStart where
  run := .refl _
  rechecked := .start
  unstarted := nofun
  faultless := nofun

theorem pending_of_run (run : Run turn tracker.waitForStart (asked.map .exchanged) w) :
    ∃ told, Pending tracker told asked w := by
  refine run.keeps_silent (P := fun asked w => ∃ told, Pending tracker told asked w) ?_
    ⟨[], pending_start tracker⟩
  rintro asked w t w' ⟨told, h⟩ ht
  exact h.step (step_of_follows ht)

theorem verdict_of_call {result : Except Failure (Option Snapshot)}
    (call : Call turn tracker.waitForStart asked result w) :
    ∃ told, Run WatchChannel.turn tracker.watch told w.channel ∧ Rechecked tracker told asked ∧
      Verdict tracker told asked w.channel result := by
  obtain ⟨before, last, m, rfl, run, hlast⟩ := call
  obtain ⟨told, h⟩ := pending_of_run run
  exact h.step (step_of_follows hlast)

/-- If the look-up after an event finds nothing, the watch says that the resource is absent. -/
theorem told_absent {ch : WatchChannel} {id : StreamId} {line : String} {r : Response}
    {rest : List Exchange} {c : WatchChannel.Outcome} (missing : r.status = 404)
    (hc : ch.turn.Follows (⟨.readLine id, .ok (some line)⟩ :: ch.target.lookedUp (.ok r) :: rest) c) :
    c = .yield (.ok (some .absent)) ch ∧ rest = [] := by
  have hanswer : WatchItem.ofAnswer ch.target.kind (.ok r) = .ok .absent := by
    have hnone : (Except.ok r : Except Failure Response).bind (Response.snapshot? ch.target.kind) =
        .ok none := r.snapshot?_eq_none_iff.mpr missing
    rw [WatchItem.ofAnswer, hnone]
  generalize ht : _ :: _ :: rest = t at hc
  cases WatchChannel.step_of_follows hc with
  | event id line answer item h announced found =>
    simp only [Tracker.lookedUp, List.cons.injEq, Exchange.mk.injEq] at ht
    obtain ⟨-, ⟨-, hr⟩, rfl⟩ := ht
    cases hr
    rw [hanswer] at found
    cases found
    exact ⟨rfl, rfl⟩
  | lookUpFailed id line answer e h announced failed =>
    simp only [Tracker.lookedUp, List.cons.injEq, Exchange.mk.injEq] at ht
    obtain ⟨-, ⟨-, hr⟩, rfl⟩ := ht
    cases hr
    rw [hanswer] at failed
    cases failed
  | _ => cases ht

/-- If the look-up after an event finds nothing, there is one more. -/
theorem Pending.asks_again (h : Pending tracker told asked w) {id : StreamId} {line : String}
    {r : Response} {rest : List Exchange} (missing : r.status = 404)
    (hs : Step w (⟨.readLine id, .ok (some line)⟩ :: tracker.lookedUp (.ok r) :: rest) o) :
    ∃ answer, rest = [tracker.lookedUp answer] := by
  have habsent {rest : List Exchange} {c : WatchChannel.Outcome} (hc : w.channel.turn.Follows
      (⟨.readLine id, .ok (some line)⟩ :: tracker.lookedUp (.ok r) :: rest) c) :
      c = .yield (.ok (some .absent)) w.channel ∧ rest = [] := by
    rw [← h.target] at hc
    exact told_absent missing hc
  generalize ht : _ :: _ :: rest = t at hs
  cases hs with
  | @doubted t item ch answer doubtful hc =>
    have htarget : ch.target = tracker := h.target_turn hc
    rw [htarget] at ht
    rcases List.eq_nil_or_concat rest with rfl | ⟨init, last, rfl⟩
    · -- A watch that has read no more than a line tells nothing.
      rw [← List.singleton_append] at ht
      obtain ⟨rfl, -⟩ := List.append_inj' ht rfl
      cases WatchChannel.step_of_follows hc
    · rw [List.concat_eq_append] at ht ⊢
      rw [← List.cons_append, ← List.cons_append] at ht
      obtain ⟨rfl, hlast⟩ := List.append_inj' ht rfl
      obtain ⟨-, rfl⟩ := habsent hc
      exact ⟨answer, hlast⟩
  | silent hc => cases (habsent (ht ▸ hc)).1
  | failed hc => cases (habsent (ht ▸ hc)).1
  | exhausted hc => cases (habsent (ht ▸ hc)).1
  | shown hc => cases (habsent (ht ▸ hc)).1

/-- A snapshot that shows no start ends nothing. -/
theorem Pending.goes_on (h : Pending tracker told asked w) (hs : Step w t o) {s : Snapshot}
    (hmem : s ∈ fetched tracker.kind t) (unstarted : ¬ Started s) : ∃ w', o = .again w' := by
  have htold {t : List Exchange} {c : WatchChannel.Outcome} (hc : w.channel.turn.Follows t c) :
      fetched tracker.kind t = snapshots c.yields :=
    h.target ▸ (WatchChannel.step_of_follows hc).fetched
  cases hs with
  | silent hc => exact ⟨_, rfl⟩
  | failed hc => simp [htold hc, snapshots] at hmem
  | exhausted hc => simp [htold hc, snapshots] at hmem
  | @shown t r ch hc =>
    have heq : s = r := by simpa [htold hc, snapshots] using hmem
    exact ⟨_, examine_unstarted _ (heq ▸ unstarted)⟩
  | @doubted t item ch answer doubtful hc =>
    have htarget : ch.target = tracker := h.target_turn hc
    rw [htarget] at hmem ⊢
    rw [fetched_append, htold hc, Turn.yields_yield, doubtful.unseen, List.nil_append] at hmem
    rcases ha : answer.bind (Response.snapshot? tracker.kind) with e | _ | r
    · simp [fetched_lookedUp_failed tracker ha] at hmem
    · simp [fetched_lookedUp tracker ha] at hmem
    · have heq : s = r := by simpa [fetched_lookedUp tracker ha] using hmem
      exact ⟨_, examine_unstarted _ (heq ▸ unstarted)⟩

/-- A wait ends with the first snapshot that shows a start, which is then the answer to the last
thing asked. It ends with nothing only if the watch is exhausted or if, after the watch left a
doubt, the resource is not found. An event whose resource is not found leads to one more look-up,
and a snapshot that shows no start lets the wait go on. -/
theorem ends_with_first_started (t : Tracker) :
    (∀ (asked : List Exchange) w, Run turn t.waitForStart (asked.map .exchanged) w →
      ∀ s ∈ fetched t.kind asked, ¬ Started s) ∧
    (∀ asked result w, Call turn t.waitForStart asked result w →
      ∃ told, Run WatchChannel.turn t.watch told w.channel ∧ Rechecked t told asked ∧
        Verdict t told asked w.channel result) ∧
    ∀ (asked : List Exchange) w, Run turn t.waitForStart (asked.map .exchanged) w →
      ∀ transcript o, w.turn.Follows transcript o →
        (∀ id line r rest,
          transcript = ⟨.readLine id, .ok (some line)⟩ :: t.lookedUp (.ok r) :: rest →
          r.status = 404 → ∃ answer, rest = [t.lookedUp answer]) ∧
        ∀ s ∈ fetched t.kind transcript, ¬ Started s → ∃ w', o = .again w' := by
  refine ⟨?_, ?_, ?_⟩
  · intro asked w run
    obtain ⟨told, h⟩ := pending_of_run run
    exact h.unstarted
  · intro asked result w call
    exact verdict_of_call call
  · intro asked w run transcript o ht
    obtain ⟨told, h⟩ := pending_of_run run
    constructor
    · rintro id line r rest rfl missing
      exact h.asks_again missing (step_of_follows ht)
    · intro s hmem unstarted
      exact h.goes_on (step_of_follows ht) hmem unstarted

/-! A pipeline run vanishes and is there again before it runs. -/

def restored : Tracker where
  config := { apiUrl := "https://api.example.test", «namespace» := "ns" }
  kind := .pipelineRun
  name := "run"

def restoredDocument (reason : String) : Response := ⟨200,
  "\x7b\"status\":\x7b\"conditions\":[\x7b\"status\":\"Unknown\",\"reason\":\"" ++ reason ++
    "\"\x7d]\x7d\x7d"⟩

def restoredSnapshot (reason : String) : Snapshot where
  kind := "PipelineRun"
  name := ""
  conditions := [⟨.unknown, reason, "", none⟩]
  children := []
  podReference := none
  steps := []
  results := []
  labels := []
  annotations := []
  raw := .object [("status", .object [("conditions",
    .array [.object [("reason", .text reason), ("status", .text "Unknown")]])])]

def restoredNotice : String := "\x7b\"type\":\"MODIFIED\",\"object\":\x7b\x7d\x7d"

def restoredWait : StartWait :=
  ⟨{ restored.watch.tried with stream := some 0, state := .streaming }⟩

def vanishing : List Exchange :=
  [⟨.readLine 0, .ok (some restoredNotice)⟩, restored.lookedUp (.ok ⟨404, ""⟩),
    restored.lookedUp (.ok (restoredDocument "Pending"))]

def beginning : List Exchange :=
  [⟨.readLine 0, .ok (some restoredNotice)⟩, restored.lookedUp (.ok (restoredDocument "Running"))]

def restoredAsked : List Exchange := ⟨.openStream restored.watch.request, .ok 0⟩ :: vanishing

theorem run_connected : Run turn restored.waitForStart
    [.exchanged ⟨.openStream restored.watch.request, .ok 0⟩] restoredWait :=
  .again (follows_connecting restored 0) (.refl restoredWait)

theorem unstarted_pending : ¬ Started (restoredSnapshot "Pending") := by
  rw [← started_iff]
  decide

theorem follows_vanishing : restoredWait.turn.Follows vanishing (.again restoredWait) := by
  have hevent : WatchChannel.Step restoredWait.channel
      [⟨.readLine 0, .ok (some restoredNotice)⟩, restored.lookedUp (.ok ⟨404, ""⟩)]
      (.yield (.ok (some .absent)) restoredWait.channel) :=
    .event 0 restoredNotice (.ok ⟨404, ""⟩) _ ⟨rfl, rfl⟩ (by decide +kernel) (by decide +kernel)
  have hstep : Step restoredWait vanishing _ :=
    .doubted (.ok (restoredDocument "Pending")) (.inl rfl) hevent.follows
  have hagain : rechecked restoredWait (.ok (some (restoredSnapshot "Pending"))) =
      .again restoredWait := examine_unstarted _ unstarted_pending
  have hfound : (Except.ok (restoredDocument "Pending") : Except Failure Response).bind
      (Response.snapshot? restored.kind) = .ok (some (restoredSnapshot "Pending")) := by
    decide +kernel
  exact hagain ▸ hfound ▸ hstep.follows

theorem follows_beginning : restoredWait.turn.Follows beginning
    (.yield (.ok (some (restoredSnapshot "Running"))) restoredWait) :=
  follows_starting 0 (by decide +kernel) (by decide +kernel) ⟨_, rfl, .inr (.inr ⟨rfl, rfl⟩)⟩

/-- The wait outlasts the gap and the pending snapshot, and ends with the running one. -/
theorem ends_with_first_started_restored :
    Run turn restored.waitForStart (restoredAsked.map .exchanged) restoredWait ∧
    (∀ s ∈ fetched .pipelineRun restoredAsked, ¬ Started s) ∧
    Call turn restored.waitForStart (restoredAsked ++ beginning)
      (.ok (some (restoredSnapshot "Running"))) restoredWait ∧
    (∃ told, Verdict restored told (restoredAsked ++ beginning) restoredWait.channel
      (.ok (some (restoredSnapshot "Running")))) ∧
    (∃ answer, [restored.lookedUp (.ok (restoredDocument "Pending"))] =
      [restored.lookedUp answer]) ∧
    restoredSnapshot "Pending" ∈ fetched .pipelineRun vanishing ∧
    ¬ Started (restoredSnapshot "Pending") ∧
    ∃ w, (.again restoredWait : Outcome) = .again w := by
  have hrun : Run turn restored.waitForStart (restoredAsked.map .exchanged) restoredWait :=
    run_connected.trans (.again follows_vanishing (.refl _))
  have hcall : Call turn restored.waitForStart (restoredAsked ++ beginning)
      (.ok (some (restoredSnapshot "Running"))) restoredWait :=
    ⟨_, _, _, rfl, hrun, follows_beginning⟩
  have hfetched : fetched .pipelineRun vanishing = [restoredSnapshot "Pending"] := by
    decide +kernel
  obtain ⟨hpending, hverdict, hturn⟩ := ends_with_first_started restored
  obtain ⟨told, -, -, htold⟩ := hverdict _ _ _ hcall
  obtain ⟨hmissing, hgoes⟩ := hturn [_] _ run_connected _ _ follows_vanishing
  have hmem : restoredSnapshot "Pending" ∈ fetched .pipelineRun vanishing := by simp [hfetched]
  exact ⟨hrun, hpending _ _ hrun, hcall, ⟨told, htold⟩, hmissing 0 restoredNotice _ _ rfl rfl,
    hmem, unstarted_pending, hgoes _ hmem unstarted_pending⟩

end PipelineObserver.StartWait
