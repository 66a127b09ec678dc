import PipelineObserver.Proofs.Aggregate.Departures
import PipelineObserver.Proofs.Aggregate.Discovering
/-!
What a failure of interleaved logs costs. The discovery fails once at most, and what it found goes
on; a stream that fails leaves the rota as it is: `Rota.LosesDiscovery`, `Rota.LosesStream`.
-/
namespace PipelineObserver

namespace Following

open InterleavedLogs (Event asked batches batches_append batches_seen failures failures_append)

variable {p : PipelineRun} {events more : List Event} {x y : Following}

theorem Course.logs (course : Course x more y)
    (connected : x.discovery.isSome → x.logs.senderGone = false) :
    InterleavedLogs.Course x.logs more y.logs ∧
      (y.discovery.isSome → y.logs.senderGone = false) := by
  induction course with
  | start => exact ⟨.start, connected⟩
  | step _ here ih => exact here.logs ih.1 ih.2

/-- The discovery fails once at most, and then it is over. -/
def FailsLast (events : List Event) (x : Following) : Prop :=
  failures (batches events) = [] ∨
    x.discovery = none ∧ ∃ found e, batches events = found ++ [.error e] ∧ failures found = []

theorem FailsLast.step (h : FailsLast events x) (here : Step x more y) :
    FailsLast (events ++ more) y := by
  rw [FailsLast, batches_append]
  rcases h with hnone | ⟨hover, hlast⟩
  · cases here with
    | search h =>
      cases h with
      | searched _ | ended _ | found _ | hungUp _ =>
        refine .inl ?_
        rw [failures_append, hnone]
        rfl
      | @failed w w' s t e _ => exact .inr ⟨rfl, batches events, e, rfl, hnone⟩
    | read _ =>
      rw [batches_seen, List.append_nil]
      exact .inl hnone
  · -- Nothing is sent any more.
    cases here with
    | search h =>
      cases h with
      | searched _ | ended _ | found _ | failed _ => cases hover
      | hungUp _ =>
        have hsame : batches events ++ batches [Event.hungUp] = batches events := List.append_nil _
        rw [hsame]
        exact .inr ⟨rfl, hlast⟩
    | read _ =>
      rw [batches_seen, List.append_nil]
      exact .inr ⟨hover, hlast⟩

theorem FailsLast.course (h : FailsLast events x) (course : Course x more y) :
    FailsLast (events ++ more) y := by
  induction course with
  | start => rwa [List.append_nil]
  | step _ here ih =>
    rw [← List.append_assoc]
    exact ih.step here

theorem failsLast_of_course (course : Course p.following events x) : FailsLast events x := by
  have hstart : FailsLast [] p.following := .inl rfl
  exact hstart.course course

end Following

namespace InterleavedLogs

variable {rota rota' : Rota} {config : Config} {waiting : List ChildBatch}
  {s s' : InterleavedLogs} {t : List Exchange} {e : Failure}

namespace Rota

/-- A failure of the discovery is met. All that was found before it is started, and all streams stay
as they were. -/
structure LosesDiscovery (rota : Rota) (e : Failure) (rota' : Rota) : Prop where
  started : ∃ found, batches (eventsOf rota.passes) = found ++ [.error e] ∧ failures found = [] ∧
    rota'.started = (children found).length
  met : failuresOf rota.passes = [] ∧ failuresOf rota'.passes = [e]
  streams : rota'.streams = rota.streams
  visits : visitsOf rota'.passes = visitsOf rota.passes
  queue : rota'.queue = rota.queue ++ List.range' rota.started (rota'.started - rota.started)

/-- The visit that is made ends with a failure. All other streams stay as they were, and in their
places. -/
structure LosesStream (rota : Rota) (e : Failure) (v : Visit) (rota' : Rota) : Prop where
  visits : ∃ past, visitsOf rota'.passes = past ++ [v] ∧
    ∃ before, visitsOf rota.passes = past ++ [before] ∧ before.stream = v.stream
  failed : ∃ asked : List Exchange, v.history = asked.map .exchanged ++ [.yielded (.error e)]
  queue : rota'.queue = rota.queue
  gone : v.stream ∉ rota.queue
  others : ∀ i, i ≠ v.stream →
    rota'.stream? i = rota.stream? i ∧ rota'.history i = rota.history i
  met : failuresOf rota'.passes = failuresOf rota.passes

/-- Whatever happens from now on, every stream runs on from where it is. The streams that wait are
asked in their order, before any that joins in, and those that have left are asked no more. -/
def Serves (rota : Rota) (config : Config) (x : Following) : Prop :=
  ∀ more y, Following.Course x more y → ∃ (rota' : Rota) (later : List Visit),
    rota'.Fits config y.logs.inbox y.logs ∧ rota'.Ledger y.logs ∧
    rota.GoesOn more rota' ∧ rota.RunsOn rota' ∧
    visitsOf rota'.passes = visitsOf rota.passes ++ later ∧
    rota.queue <+: later.map (·.stream) ++ rota'.queue ∧
    ∀ v ∈ visitsOf rota.passes, v.Leaves →
      v.stream ∉ later.map (·.stream) ∧ v.stream ∉ rota'.queue

end Rota

/-- A failure that is the last one of all batches and has been received leaves no batch behind. -/
theorem nothing_after_last {found received left : List ChildBatch} {e' : Failure}
    (h : received ++ left = found ++ [.error e']) (hfound : failures found = [])
    (hmet : failures received ≠ []) : left = [] := by
  rcases List.eq_nil_or_concat left with rfl | ⟨init, batch, rfl⟩
  · rfl
  · rw [List.concat_eq_append, ← List.append_assoc] at h
    have hinit := congrArg failures (List.append_inj' h rfl).1
    rw [failures_append, hfound, List.append_eq_nil_iff] at hinit
    exact absurd hinit.1 hmet

/-- The failure that is met is the only one, and it was sent last. -/
theorem Rota.Settled.last {taken left : List ChildBatch} (settled : rota.Settled (taken ++ left))
    (met : failures taken = [e]) {x : Following} (last : x.FailsLast (eventsOf rota.passes)) :
    left = [] ∧ failuresOf rota.passes = [] ∧
      ∃ found, batches (eventsOf rota.passes) = found ++ [.error e] ∧ failures found = [] := by
  obtain ⟨received, hbatches, hearlier⟩ := settled
  rw [← List.append_assoc] at hbatches
  have hfailures : failures (received ++ taken) = failuresOf rota.passes ++ [e] := by
    rw [failures_append, hearlier, met]
  rcases last with hnone | ⟨-, found, e', hlast, hfound⟩
  · rw [hbatches, failures_append, hfailures] at hnone
    simp at hnone
  · obtain rfl := nothing_after_last (hbatches.symm.trans hlast) hfound (by simp [hfailures])
    rw [List.append_nil] at hbatches
    have honly : failures (found ++ [.error e']) = [] ++ [e'] := by
      rw [failures_append, hfound]
      rfl
    rw [← hbatches.symm.trans hlast, hfailures] at honly
    obtain ⟨hfirst, he⟩ := List.append_inj' honly rfl
    cases he
    exact ⟨rfl, hfirst, found, hlast, hfound⟩

namespace Rota.Fits

theorem all_started (h : rota.Fits config [] s) : rota.started = found (eventsOf rota.passes) :=
  h.base_turnOver.symm

/-- A failure of the discovery costs no stream. -/
theorem loses_discovery (h : rota.Fits config s.inbox s) (settled : rota.Settled s.inbox)
    (pulled : s.pulled = none) {x : Following} (last : x.FailsLast (eventsOf rota.passes))
    (ht : s.turn.Follows t (.turned (.yield (.error e) s'))) : ∃ rota' : Rota,
      rota'.Fits config s'.inbox s' ∧ rota'.Settled s'.inbox ∧
      rota.GoesOn (asked t ++ [.happened (.yielded (.error e))]) rota' ∧ s'.pulled = none ∧
      rota.LosesDiscovery e rota' := by
  obtain ⟨rfl, hadvance⟩ := (follows_turn_none pulled).mp ht
  have hadvances := advance_advances s
  rw [← hadvance] at hadvances
  cases hadvances with
  | fails hs =>
    obtain ⟨n, hfits, hgoes, -, hsettled⟩ := h.meets pulled hs
    obtain ⟨taken, hinbox, htaken⟩ := received_splits hs
    have hpulled : s'.pulled = s.pulled := by simpa [hs] using (received_keeps s).1
    obtain ⟨hleft, hfirst, found, hlast, hfound⟩ := (hinbox ▸ settled).last htaken last
    have hstarted : rota.started + n = (children found).length := by
      have hall := (hleft ▸ hfits).all_started
      rw [InterleavedLogs.found, hgoes.events, batches_append, hlast, List.append_assoc,
        children_append] at hall
      exact hall.trans (congrArg List.length (List.append_nil _))
    have hmet : failuresOf ((rota.join n).fail e).passes = failuresOf rota.passes ++ [e] :=
      (List.append_assoc ..).symm
    refine ⟨_, hfits, hsettled settled, hgoes, hpulled.trans pulled, ?_⟩
    exact {
      started := ⟨found, hlast, hfound, hstarted⟩
      met := by
        rw [hmet, hfirst]
        exact ⟨rfl, rfl⟩
      streams := rfl
      visits := rfl
      queue := by
        have hjoined : ((rota.join n).fail e).started - rota.started = n :=
          Nat.add_sub_cancel_left ..
        rw [hjoined]
        exact queue_join h.within.1 n }

/-- A stream that fails costs no other one. -/
theorem loses_stream (h : rota.Fits config s.inbox s) (settled : rota.Settled s.inbox)
    {st : TaskStream} (pulled : s.pulled = some st)
    (ht : s.turn.Follows t (.turned (.yield (.error e) s'))) : ∃ (rota' : Rota) (v : Visit),
      rota'.Fits config s'.inbox s' ∧ rota'.Settled s'.inbox ∧
      rota.GoesOn (asked t ++ [.happened (.yielded (.error e))]) rota' ∧ s'.pulled = none ∧
      rota.LosesStream e v rota' := by
  obtain ⟨x, hx, ho⟩ := (follows_turn_pulled pulled).mp ht
  obtain ⟨before, v, asks, hbase, hfits⟩ := h.pulls pulled hx
  obtain ⟨hgoes, -, hsettled⟩ := h.continues_pulls asks hbase hx
  rcases x with l | ⟨e' | _ | line, l⟩ <;> cases ho
  have hnone : (LogLines.toldLines
      (Turn.happenings t (.yield (.error e) l : LogLines.Outcome))).isEmpty = true := by
    rw [LogLines.toldLines, yields_happenings]
    rfl
  have hgone := h.not_mem_queue asks hbase
  obtain ⟨earlier, hearlier⟩ := asks.isOpen
  refine ⟨_, v.extend (Turn.happenings t (.yield (.error e) l : LogLines.Outcome)), hfits,
    hsettled settled, hgoes, rfl, ?_⟩
  exact {
    visits := ⟨_, visitsOf_tell, v, visitsOf_asks asks, rfl⟩
    failed := by
      refine ⟨earlier ++ t, ?_⟩
      rw [Visit.extend, hearlier, Turn.happenings, List.map_append, List.append_assoc]
    queue := by
      rw [queue_tell asks hbase, hnone]
      exact List.append_nil _
    gone := hgone
    others := by
      intro i (hi : i ≠ v.stream)
      refine ⟨?_, ?_⟩
      · rw [Rota.stream?, Rota.tell, List.getElem?_set_ne (Ne.symm hi)]
        rfl
      · rw [history_tell asks, if_neg hi, List.append_nil]
    met := rfl }

/-- Between two visits every stream that is left has its place, whatever happens then. -/
theorem serves {x : Following} (h : rota.Fits config x.logs.inbox x.logs)
    (settled : rota.Settled x.logs.inbox) (pulled : x.logs.pulled = none)
    (connected : x.discovery.isSome → x.logs.senderGone = false) : rota.Serves config x := by
  intro more y course
  obtain ⟨rota', h', hgoes, hruns, hkeeps⟩ := h.course_continues (course.logs connected).1
  have ledger := h'.ledger (hkeeps settled)
  obtain ⟨later, hlater⟩ := hgoes.closed _ (List.prefix_refl _) (h.over_of_idle pulled)
  refine ⟨rota', later, h', ledger, hgoes, hruns, hlater.symm, ?_, ?_⟩
  · have horder := hgoes.order
    rw [Rota.order, Rota.order, ← hlater, List.map_append, List.append_assoc,
      List.prefix_append_right_inj] at horder
    exact horder
  · intro v hv hleaves
    obtain ⟨past, rest, hsplit⟩ := List.append_of_mem hv
    rw [hsplit, List.append_assoc, List.cons_append] at hlater
    obtain ⟨hlater', hqueue⟩ := ledger.once past v (rest ++ later) hlater.symm hleaves
    rw [List.map_append, List.mem_append, not_or] at hlater'
    exact ⟨hlater'.2, hqueue⟩

/-- A failure that waits is yielded as soon as the pass is over. -/
theorem fails_after_pass (h : rota.Fits config s.inbox s) (pulled : s.pulled = none)
    (rotation : s.rotation = 0) (waits : failures s.inbox ≠ []) :
    ∃ e s', s.turn.Follows [] (.turned (.yield (.error e) s')) := by
  have hreceived (r : InterleavedLogs) : s.received ≠ (none, r) := by
    intro hr
    obtain ⟨taken, hinbox, htaken⟩ := received_splits hr
    rw [hinbox, failures_append, htaken, h.inbox_eq_nil hr rotation] at waits
    exact waits rfl
  have hadvances := advance_advances s
  generalize ho : s.advance = o at hadvances
  cases hadvances with
  | @fails e s' _ => exact ⟨e, s', (follows_turn_none pulled).mpr ⟨rfl, ho.symm⟩⟩
  | pulls hs | waits hs | ends hs => exact absurd hs (hreceived _)

/-- A turn waits only for what the discovery has not sent yet. -/
theorem waits (h : rota.Fits config s.inbox s) (ht : s.turn.Follows t (.waiting s')) :
    s'.pulled = none ∧ s'.active = [] ∧ s'.inbox = [] ∧ s.senderGone = false := by
  refine waits_of_paced (fun pulled r hr => ?_) ht
  obtain ⟨n, hn⟩ := h.received pulled
  rw [hr] at hn
  exact hn.paced

/-- No stream waits once all of those that were sent have left. -/
theorem active_eq_nil (h : rota.Fits config waiting s)
    (left : ∀ i < found (eventsOf rota.passes), ∃ v ∈ visitsOf rota.passes,
      v.stream = i ∧ v.Leaves) : s.active = [] ∧ s.pulled = none := by
  constructor
  · have hqueue : rota.queue = [] := by
      refine List.eq_nil_iff_forall_not_mem.mpr fun i hi => ?_
      obtain ⟨st, hst⟩ := h.stream_of_queue hi
      obtain ⟨v, hv, rfl, hleaves⟩ := left i (h.lt_found hst)
      obtain ⟨past, rest, hsplit⟩ := List.append_of_mem hv
      exact (h.departed hsplit hleaves).2 hi
    have hactive := h.active
    rw [hqueue] at hactive
    exact List.map_eq_nil_iff.mp hactive
  · by_contra hpulled
    obtain ⟨st, hst⟩ := Option.ne_none_iff_exists'.mp hpulled
    obtain ⟨before, v, asks⟩ := h.asking st hst
    obtain ⟨w, hw, hstream, hleaves⟩ := left v.stream (h.lt_found asks.stream)
    -- The one that is asked has not answered, and so it has left in no visit before.
    rw [visitsOf_asks asks, List.mem_append, List.mem_singleton] at hw
    rcases hw with hw | rfl
    · obtain ⟨past, rest, hsplit⟩ := List.append_of_mem hw
      have hvisits := visitsOf_asks asks
      rw [hsplit, List.append_assoc, List.cons_append] at hvisits
      have hlater := (h.departed hvisits hleaves).1
      rw [hstream] at hlater
      simp at hlater
    · exact asks.isOpen.not_isOver (Visit.leaves_iff.mp hleaves).1

/-- When the end is told, nothing waits and every stream has left. -/
theorem left_of_ends (h : rota.Fits config s.inbox s)
    (ht : s.turn.Follows t (.turned (.yield (.ok none) s'))) :
    s.senderGone = true ∧ failures s.inbox = [] ∧
      ∀ i < found (eventsOf rota.passes), ∃ v ∈ visitsOf rota.passes, v.stream = i ∧ v.Leaves := by
  cases pulled : s.pulled with
  | some st =>
    obtain ⟨x, -, ho⟩ := (follows_turn_pulled pulled).mp ht
    rcases x with l | ⟨e | _ | line, l⟩ <;> cases ho
  | none =>
    obtain ⟨-, hadvance⟩ := (follows_turn_none pulled).mp ht
    have hadvances := advance_advances s
    rw [← hadvance] at hadvances
    cases hadvances with
    | ends hs hactive hover =>
      obtain ⟨n, hn⟩ := h.received pulled
      obtain ⟨taken, hinbox, htaken⟩ := received_splits hs
      have hgone := s.received_takes.1
      have hidle := (received_keeps s).1
      rw [hs] at hn hgone hidle
      obtain ⟨hgone', hempty⟩ := hn.settled hover
      rw [hempty] at hn
      refine ⟨hgone.symm.trans hgone', ?_, fun i hi => ?_⟩
      · rw [hinbox, hempty, failures_append, htaken]
        rfl
      · have hstarted : i < (rota.join n).started := hn.all_started.symm ▸ hi
        have hqueue : (rota.join n).queue = [] := by
          have hmap := hn.active
          rw [hactive] at hmap
          exact List.map_eq_nil_iff.mp hmap.symm
        rcases hn.stays hstarted with hmem | ⟨-, -, st, hst, -⟩ | hleft
        · rw [hqueue] at hmem
          cases hmem
        · cases (hidle.trans pulled).symm.trans hst
        · exact hleft

theorem ends_of_left (h : rota.Fits config s.inbox s) (gone : s.senderGone = true)
    (faultless : failures s.inbox = [])
    (left : ∀ i < found (eventsOf rota.passes), ∃ v ∈ visitsOf rota.passes,
      v.stream = i ∧ v.Leaves) :
    ∃ t s', s.turn.Follows t (.turned (.yield (.ok none) s')) := by
  obtain ⟨-, pulled⟩ := h.active_eq_nil left
  obtain ⟨n, hn⟩ := h.received pulled
  have hactive := (hn.active_eq_nil left).1
  have hadvances := advance_advances s
  have hfollows := (follows_turn_none (t := []) (o := s.advance) pulled).mpr ⟨rfl, rfl⟩
  generalize s.advance = o at hadvances hfollows
  cases hadvances with
  | fails hs =>
    obtain ⟨taken, hinbox, htaken⟩ := received_splits hs
    rw [hinbox, failures_append, htaken] at faultless
    cases faultless
  | pulls hs hnext =>
    rw [hs, hnext] at hactive
    cases hactive
  | waits hs =>
    obtain ⟨-, -, -, hopen⟩ := h.waits hfollows
    cases gone.symm.trans hopen
  | ends hs => exact ⟨[], _, hfollows⟩

/-- The end is told once the discovery is over, its failure was met and all streams have left. -/
theorem ends_iff (h : rota.Fits config s.inbox s) :
    (∃ t s', s.turn.Follows t (.turned (.yield (.ok none) s'))) ↔
      s.senderGone = true ∧ failures s.inbox = [] ∧
        ∀ i < found (eventsOf rota.passes), ∃ v ∈ visitsOf rota.passes,
          v.stream = i ∧ v.Leaves := by
  constructor
  · rintro ⟨t, s', ht⟩
    exact h.left_of_ends ht
  · rintro ⟨gone, faultless, left⟩
    exact h.ends_of_left gone faultless left

/-- Whatever fails, the streams that are left have their places. -/
theorem survives {x : Following} (h : rota.Fits config x.logs.inbox x.logs)
    (settled : rota.Settled x.logs.inbox) (last : x.FailsLast (eventsOf rota.passes))
    (connected : x.discovery.isSome → x.logs.senderGone = false)
    (ht : x.logs.turn.Follows t (.turned (.yield (.error e) s'))) : ∃ rota' : Rota,
      rota'.Fits config s'.inbox s' ∧ rota'.Ledger s' ∧
      rota.GoesOn (asked t ++ [.happened (.yielded (.error e))]) rota' ∧
      (x.logs.pulled = none ∧ rota.LosesDiscovery e rota' ∨
        x.logs.pulled ≠ none ∧ ∃ v, rota.LosesStream e v rota') ∧
      rota'.Serves config ⟨x.discovery, s'⟩ := by
  have hopen : x.discovery.isSome → s'.senderGone = false := fun hsome =>
    (turn_takes ht).1.trans (connected hsome)
  cases pulled : x.logs.pulled with
  | none =>
    obtain ⟨rota', h', settled', hgoes, hidle, hloses⟩ := h.loses_discovery settled pulled last ht
    exact ⟨rota', h', h'.ledger settled', hgoes, .inl ⟨rfl, hloses⟩,
      h'.serves settled' hidle hopen⟩
  | some st =>
    obtain ⟨rota', v, h', settled', hgoes, hidle, hloses⟩ := h.loses_stream settled pulled ht
    exact ⟨rota', h', h'.ledger settled', hgoes, .inr ⟨nofun, v, hloses⟩,
      h'.serves settled' hidle hopen⟩

end Rota.Fits

end InterleavedLogs

end PipelineObserver
