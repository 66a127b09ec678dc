import PipelineObserver.Proofs.Aggregate.Book
import PipelineObserver.Proofs.Logs.Steps
/-!
The rota of interleaved logs: the passes over the streams, and the visits that are made in each of
them. Between two passes streams join in, and then the next one begins: `Rota.Fits.received`,
`Rota.Fits.turnOver`.
-/
namespace PipelineObserver.InterleavedLogs

/-- A visit of the stream of a child: what happens to it from when it is asked for a line up to its
answer. -/
structure Visit where
  stream : Nat
  child : ChildReference
  history : LogLines.Course

namespace Visit

variable (v : Visit)

/-- The stream has not answered yet. -/
def IsOpen : Prop := ∃ t : List Exchange, v.history = t.map .exchanged

/-- The stream has given a line, has ended or has failed. -/
def IsOver : Prop :=
  ∃ (t : List Exchange) (answer : Except Failure (Option String)),
    v.history = t.map .exchanged ++ [.yielded answer]

/-- The stream has given a line, and so it waits for its next turn. -/
def keeps : Bool := !(LogLines.toldLines v.history).isEmpty

/-- More happens in the visit. -/
def extend (news : LogLines.Course) : Visit := { v with history := v.history ++ news }

/-- What is to be seen of a visit. -/
def shown : List (Happening (Except Failure (Option (String × String)))) :=
  v.history.flatMap (InterleavedLogs.shown v.child.taskName)

variable (news : LogLines.Course)

@[simp] theorem extend_stream : (v.extend news).stream = v.stream := rfl

theorem extend_shown : (v.extend news).shown =
    v.shown ++ news.flatMap (InterleavedLogs.shown v.child.taskName) := List.flatMap_append

variable {v}

theorem IsOpen.toldLines (h : v.IsOpen) : LogLines.toldLines v.history = [] := by
  obtain ⟨asked, hasked⟩ := h
  rw [hasked, LogLines.toldLines, yields_asked]
  rfl

theorem IsOpen.keeps (h : v.IsOpen) : v.keeps = false := by
  rw [Visit.keeps, h.toldLines]
  rfl

theorem IsOpen.keeps_extend (h : v.IsOpen) :
    (v.extend news).keeps = !(LogLines.toldLines news).isEmpty := by
  rw [Visit.keeps, extend, LogLines.toldLines_append, h.toldLines, List.nil_append]

theorem IsOpen.again (h : v.IsOpen) (t : List Exchange) : (v.extend (t.map .exchanged)).IsOpen := by
  obtain ⟨asked, hasked⟩ := h
  exact ⟨asked ++ t, by rw [extend, hasked, List.map_append]⟩

theorem IsOpen.yield (h : v.IsOpen) (t : List Exchange)
    (answer : Except Failure (Option String)) :
    (v.extend (t.map .exchanged ++ [.yielded answer])).IsOver := by
  obtain ⟨asked, hasked⟩ := h
  exact ⟨asked ++ t, answer, by rw [extend, hasked, List.map_append, List.append_assoc]⟩

theorem IsOpen.not_isOver (h : v.IsOpen) : ¬v.IsOver := by
  rintro ⟨t, answer, hover⟩
  obtain ⟨asked, hasked⟩ := h
  have hmem : Happening.yielded answer ∈ v.history := by
    rw [hover]
    exact List.mem_concat_self
  rw [hasked] at hmem
  simp at hmem

end Visit

/-- A pass over the streams, up to the next one. -/
structure Pass where
  -- The streams that are active when it begins.
  roster : List Nat
  visits : List Visit
  -- The failures of the discovery that are met after the visits.
  failures : List Failure
  events : List Event

/-- The streams that are active still after a visit in the pass. -/
def Pass.kept (r : Pass) : List Nat := (r.visits.filter (·.keeps)).map (·.stream)

/-- What is seen of a pass. -/
def Pass.shown (r : Pass) : List (Happening (Except Failure (Option (String × String)))) :=
  r.visits.flatMap (·.shown) ++ r.failures.map fun e => .yielded (.error e)

/-- The events of some passes, of which the latest stands first. -/
def eventsOf : List Pass → List Event
  | [] => []
  | r :: earlier => eventsOf earlier ++ r.events

def visitsOf : List Pass → List Visit
  | [] => []
  | r :: earlier => visitsOf earlier ++ r.visits

/-- How many children were sent. -/
def found (events : List Event) : Nat := (children (batches events)).length

/-- The streams of a pass that comes after some others: those that are still active, and then those
of the children that were sent since the one before it began. The first pass stands for the time
before there is any stream. -/
def ComesAfter (roster : List Nat) : List Pass → Prop
  | [] => roster = []
  | r :: earlier => r.visits.map (·.stream) = r.roster ∧
      roster = r.kept ++ List.range' (found (eventsOf earlier)) (found r.events) ∧
      ComesAfter r.roster earlier

/-- The passes, and the children that were sent with the lines of their streams. -/
structure Rota where
  current : Pass
  -- The latest stands first.
  earlier : List Pass
  streams : List (ChildReference × LogLines)
  -- How many of the streams were started.
  started : Nat

namespace Rota

variable (rota : Rota)

def passes : List Pass := rota.current :: rota.earlier

/-- The streams that were sent before the pass began. -/
def base : Nat := found (eventsOf rota.earlier)

/-- The active streams, in the order in which they are asked next. -/
def queue : List Nat :=
  rota.current.roster.drop rota.current.visits.length ++ rota.current.kept ++
    List.range' rota.base (rota.started - rota.base)

def stream? (i : Nat) : Option TaskStream :=
  rota.streams[i]?.map fun x => ⟨x.1.taskName, x.2⟩

/-- What happened to a stream in all its visits. -/
def history (i : Nat) : LogLines.Course :=
  ((visitsOf rota.passes).filter (·.stream = i)).flatMap (·.history)

/-- The latest visit is that of a stream which has not answered yet. -/
structure Asks (before : List Visit) (v : Visit) (st : TaskStream) : Prop where
  visits : rota.current.visits = before ++ [v]
  closed : ∀ x ∈ before, x.IsOver
  isOpen : v.IsOpen
  stream : rota.stream? v.stream = some st

/-- The rota fits a state, with some batches still to be received. -/
structure Fits (config : Config) (waiting : List ChildBatch) (s : InterleavedLogs) : Prop where
  configured : s.config = config
  settled : s.discovering = false → s.senderGone = true ∧ waiting = []
  sent : rota.streams.map (·.1) = children (batches (eventsOf rota.passes))
  unstarted : rota.streams.drop rota.started =
    (children waiting).map fun c => (c, TaskRunLogs.stream ⟨config, c.name⟩)
  within : rota.base ≤ rota.started ∧ rota.started ≤ rota.streams.length
  active : s.active.map some = rota.queue.map rota.stream?
  left : s.rotation + rota.current.visits.length = rota.current.roster.length
  -- Nothing is received as long as a pass is under way.
  underWay : s.rotation ≠ 0 ∨ s.pulled ≠ none →
    rota.started = rota.base ∧ rota.current.failures = []
  idle : s.pulled = none → ∀ v ∈ rota.current.visits, v.IsOver
  asking : ∀ st, s.pulled = some st → ∃ before v, rota.Asks before v st
  inOrder : rota.current.visits.map (·.stream) <+: rota.current.roster
  follows : ComesAfter rota.current.roster rota.earlier
  closed : ∀ r ∈ rota.earlier, ∀ v ∈ r.visits, v.IsOver
  known : ∀ v ∈ visitsOf rota.passes, rota.streams[v.stream]?.map (·.1) = some v.child
  told : ∀ r ∈ rota.passes, InterleavedLogs.told r.events = r.shown
  run : ∀ i x, rota.streams[i]? = some x →
    Run LogLines.turn (TaskRunLogs.stream ⟨config, x.1.name⟩) (rota.history i) x.2

/-- A batch is sent. -/
def send (config : Config) (batch : ChildBatch) : Rota where
  current := { rota.current with events := rota.current.events ++ [.sent batch] }
  earlier := rota.earlier
  streams := rota.streams ++
    (children [batch]).map fun c => (c, TaskRunLogs.stream ⟨config, c.name⟩)
  started := rota.started

/-- So many streams are started. -/
def join (n : Nat) : Rota := { rota with started := rota.started + n }

/-- A failure of the discovery is met. -/
def fail (e : Failure) : Rota :=
  { rota with current := { rota.current with
      failures := rota.current.failures ++ [e]
      events := rota.current.events ++ [.happened (.yielded (.error e))] } }

/-- The next pass begins. -/
def turnOver : Rota where
  current := ⟨rota.queue, [], [], []⟩
  earlier := rota.passes
  streams := rota.streams
  started := rota.started

/-- The next stream is asked. -/
def visit (i : Nat) (child : ChildReference) : Rota :=
  { rota with current := { rota.current with visits := rota.current.visits ++ [⟨i, child, []⟩] } }

/-- More happens in the visit after some that are over, and is seen; the stream goes on with these
lines. -/
def tell (before : List Visit) (v : Visit) (news : LogLines.Course) (l : LogLines)
    (more : List Event) : Rota where
  current := { rota.current with
    visits := before ++ [v.extend news]
    events := rota.current.events ++ more }
  earlier := rota.earlier
  streams := rota.streams.set v.stream (v.child, l)
  started := rota.started

/-- Something is seen that belongs to no visit. -/
def note (more : List Event) : Rota :=
  { rota with current := { rota.current with events := rota.current.events ++ more } }

/-- The streams that were asked, and then those that wait, in the order in which they are asked. -/
def order : List Nat := (visitsOf rota.passes).map (·.stream) ++ rota.queue

/-- One rota comes from another one by some more events. -/
structure GoesOn (rota : Rota) (more : List Event) (rota' : Rota) : Prop where
  events : eventsOf rota'.passes = eventsOf rota.passes ++ more
  -- The pass goes on, or is over and others come after it.
  passes : ∃ later r, rota'.passes = later ++ r :: rota.earlier ∧
    r.roster = rota.current.roster ∧ rota.current.events <+: r.events
  -- Whoever joins in comes last.
  order : rota.order <+: rota'.order
  -- What is over stays as it was.
  closed : ∀ past, past <+: visitsOf rota.passes → (∀ v ∈ past, v.IsOver) →
    past <+: visitsOf rota'.passes

end Rota

theorem Pass.kept_eq {r : Pass} {before : List Visit} {v : Visit} (h : r.visits = before ++ [v]) :
    r.kept = (before.filter (·.keeps)).map (·.stream) ++ if v.keeps then [v.stream] else [] := by
  rw [Pass.kept, h, List.filter_append, List.map_append]
  cases hv : v.keeps <;> simp [hv]

/-- The streams that are left. -/
theorem Pass.drop_visits {r : Pass} {left : List Nat}
    (h : r.visits.map (·.stream) ++ left = r.roster) : r.roster.drop r.visits.length = left := by
  rw [← h]
  exact List.drop_left' (List.length_map _)

theorem found_append (events more : List Event) :
    found (events ++ more) = found events + found more := by
  rw [found, batches_append, children_append, List.length_append]
  rfl

theorem set_eq_self {α : Type} {xs : List α} {i : Nat} {a : α} (h : xs[i]? = some a) :
    xs.set i a = xs := by
  obtain ⟨hi, rfl⟩ := List.getElem?_eq_some_iff.mp h
  exact List.set_getElem_self hi

/-- Streams that stand in a row. -/
theorem map_getElem?_range' {α : Type} (xs : List α) (a : Nat) {n : Nat} (h : a + n ≤ xs.length) :
    (List.range' a n).map (fun i => xs[i]?) = ((xs.drop a).take n).map some := by
  induction n generalizing a with
  | zero => simp
  | succ n ih =>
    have ha : a < xs.length := by omega
    rw [List.range'_succ, List.map_cons, ih (a + 1) (by omega), List.drop_eq_getElem_cons ha,
      List.take_succ_cons, List.map_cons, List.getElem?_eq_getElem ha]

/-- The streams of a pass are different from each other, and were sent before it began. -/
theorem ComesAfter.nodup {roster : List Nat} {earlier : List Pass} (h : ComesAfter roster earlier) :
    roster.Nodup ∧ ∀ i ∈ roster, i < found (eventsOf earlier) := by
  induction earlier generalizing roster with
  | nil =>
    rw [ComesAfter] at h
    rw [h]
    exact ⟨List.nodup_nil, nofun⟩
  | cons r earlier ih =>
    obtain ⟨hvisits, rfl, hbefore⟩ := h
    obtain ⟨hnodup, hlt⟩ := ih hbefore
    have hkept : r.kept.Sublist r.roster := by
      rw [← hvisits]
      exact List.filter_sublist.map _
    have hevents : found (eventsOf (r :: earlier)) = found (eventsOf earlier) + found r.events :=
      found_append ..
    constructor
    · rw [List.nodup_append]
      refine ⟨hkept.nodup hnodup, List.nodup_range', fun i hi j hj => ?_⟩
      have hi := hlt i (hkept.mem hi)
      have hj := (List.mem_range'_1.mp hj).1
      omega
    · intro i hi
      rw [hevents]
      rcases List.mem_append.mp hi with hi | hi
      · have hi := hlt i (hkept.mem hi)
        omega
      · exact (List.mem_range'_1.mp hi).2

namespace Rota

theorem fits_start (config : Config) :
    Fits ⟨⟨[], [], [], []⟩, [], [], 0⟩ config [] { config := config } where
  configured := rfl
  settled := nofun
  sent := rfl
  unstarted := rfl
  within := ⟨Nat.le_refl 0, Nat.le_refl 0⟩
  active := rfl
  left := rfl
  underWay := by simp
  idle := by simp
  asking := by simp
  inOrder := List.prefix_refl []
  follows := rfl
  closed := by simp
  known := by simp [visitsOf, passes]
  told := by simp [passes, InterleavedLogs.told, Pass.shown]
  run := by simp

theorem GoesOn.refl (rota : Rota) : rota.GoesOn [] rota where
  events := (List.append_nil _).symm
  passes := ⟨[], rota.current, rfl, rfl, List.prefix_refl _⟩
  order := List.prefix_refl _
  closed := fun _ hpast _ => hpast

theorem GoesOn.trans {rota rota' rota'' : Rota} {more rest : List Event}
    (h : rota.GoesOn more rota') (h' : rota'.GoesOn rest rota'') :
    rota.GoesOn (more ++ rest) rota'' where
  events := by rw [h'.events, h.events, List.append_assoc]
  passes := by
    obtain ⟨later, r, hpasses, hroster, hevents⟩ := h.passes
    obtain ⟨later', r', hpasses', hroster', hevents'⟩ := h'.passes
    cases later with
    | nil =>
      obtain ⟨rfl, hearlier⟩ := List.cons.inj hpasses
      rw [hearlier] at hpasses'
      exact ⟨later', r', hpasses', hroster'.trans hroster, hevents.trans hevents'⟩
    | cons current later =>
      obtain ⟨-, hearlier⟩ := List.cons.inj hpasses
      rw [hearlier] at hpasses'
      exact ⟨later' ++ r' :: later, r, by rw [hpasses', List.append_assoc]; rfl, hroster, hevents⟩
  order := h.order.trans h'.order
  closed := fun past hpast hover => h'.closed past (h.closed past hpast hover) hover

variable (rota : Rota)

theorem goesOn_send (config : Config) (batch : ChildBatch) :
    rota.GoesOn [.sent batch] (rota.send config batch) where
  events := (List.append_assoc ..).symm
  passes := ⟨[], _, rfl, rfl, List.prefix_append ..⟩
  order := List.prefix_refl rota.order
  closed := fun _ hpast _ => hpast

theorem goesOn_fail (e : Failure) :
    rota.GoesOn [.happened (.yielded (.error e))] (rota.fail e) where
  events := (List.append_assoc ..).symm
  passes := ⟨[], _, rfl, rfl, List.prefix_append ..⟩
  order := List.prefix_refl rota.order
  closed := fun _ hpast _ => hpast

theorem goesOn_note (more : List Event) : rota.GoesOn more (rota.note more) where
  events := (List.append_assoc ..).symm
  passes := ⟨[], _, rfl, rfl, List.prefix_append ..⟩
  order := List.prefix_refl rota.order
  closed := fun _ hpast _ => hpast

theorem told_of_note {r : Pass} {more : List Event} (h : InterleavedLogs.told r.events = r.shown)
    (htold : InterleavedLogs.told more = []) :
    InterleavedLogs.told (r.events ++ more) = r.shown := by
  rw [told_append, htold, List.append_nil, h]

namespace Fits

variable {rota : Rota} {config : Config} {waiting : List ChildBatch} {s : InterleavedLogs}

/-- Every active stream is one of those that were sent. -/
theorem stream_of_queue (h : rota.Fits config waiting s) {i : Nat} (hi : i ∈ rota.queue) :
    ∃ st, rota.stream? i = some st := by
  have hmem : rota.stream? i ∈ s.active.map some := by
    rw [h.active]
    exact List.mem_map_of_mem hi
  obtain ⟨st, -, hst⟩ := List.mem_map.mp hmem
  exact ⟨st, hst.symm⟩

theorem note (h : rota.Fits config waiting s) {more : List Event}
    (hbatches : batches more = []) (htold : InterleavedLogs.told more = []) :
    (rota.note more).Fits config waiting s where
  configured := h.configured
  settled := h.settled
  sent := by
    have hevents : eventsOf (rota.note more).passes = eventsOf rota.passes ++ more :=
      (List.append_assoc ..).symm
    rw [hevents, batches_append, hbatches, List.append_nil]
    exact h.sent
  unstarted := h.unstarted
  within := h.within
  active := h.active
  left := h.left
  underWay := h.underWay
  idle := h.idle
  asking := by
    intro st hst
    obtain ⟨before, v, asks⟩ := h.asking st hst
    exact ⟨before, v, { asks with stream := asks.stream }⟩
  inOrder := h.inOrder
  follows := h.follows
  closed := h.closed
  known := h.known
  told := by
    obtain ⟨hcurrent, hearlier⟩ := List.forall_mem_cons.mp h.told
    exact List.forall_mem_cons.mpr ⟨told_of_note hcurrent htold, hearlier⟩
  run := h.run

/-! ### Batches -/

/-- A stream that was sent last has had no visit. -/
theorem history_eq_nil (h : rota.Fits config waiting s) {i : Nat} (hi : rota.streams.length ≤ i) :
    rota.history i = [] := by
  have hnone : (visitsOf rota.passes).filter (·.stream = i) = [] := by
    rw [List.filter_eq_nil_iff]
    intro v hv hstream
    have hknown := h.known v hv
    rw [of_decide_eq_true hstream, List.getElem?_eq_none hi] at hknown
    cases hknown
  rw [Rota.history, hnone]
  rfl

theorem send (h : rota.Fits config waiting s) (here : s.senderGone = false) (batch : ChildBatch) :
    (rota.send config batch).Fits config (waiting ++ [batch]) (s.deliver batch) := by
  have hevents : eventsOf (rota.send config batch).passes = eventsOf rota.passes ++ [.sent batch] :=
    (List.append_assoc ..).symm
  have hold {i : Nat} {st : TaskStream} (hi : rota.stream? i = some st) :
      (rota.send config batch).stream? i = some st := by
    obtain ⟨x, hx, hst⟩ := Option.map_eq_some_iff.mp hi
    have hlt : i < rota.streams.length := (List.getElem?_eq_some_iff.mp hx).1
    rw [Rota.stream?, Rota.send, List.getElem?_append_left hlt]
    exact hi
  constructor
  case configured => exact h.configured
  case settled =>
    intro hsettled
    cases here.symm.trans (h.settled hsettled).1
  case sent =>
    rw [hevents, batches_append, children_append, ← h.sent, Rota.send, List.map_append,
      List.map_map]
    exact congrArg _ (List.map_id _)
  case unstarted =>
    rw [children_append, List.map_append, ← h.unstarted]
    exact List.drop_append_of_le_length h.within.2
  case within =>
    refine ⟨h.within.1, Nat.le_trans h.within.2 ?_⟩
    rw [Rota.send, List.length_append]
    exact Nat.le_add_right ..
  case active =>
    refine h.active.trans (List.map_congr_left fun i hi => ?_)
    obtain ⟨st, hst⟩ := h.stream_of_queue hi
    rw [hst, hold hst]
  case left => exact h.left
  case underWay => exact h.underWay
  case idle => exact h.idle
  case asking =>
    intro st hst
    obtain ⟨before, v, asks⟩ := h.asking st hst
    exact ⟨before, v, { asks with stream := hold asks.stream }⟩
  case inOrder => exact h.inOrder
  case follows => exact h.follows
  case closed => exact h.closed
  case known =>
    intro v hv
    have hknown := h.known v hv
    obtain ⟨x, hx, -⟩ := Option.map_eq_some_iff.mp hknown
    have hlt : v.stream < rota.streams.length := (List.getElem?_eq_some_iff.mp hx).1
    rw [Rota.send, List.getElem?_append_left hlt]
    exact hknown
  case told =>
    obtain ⟨hcurrent, hearlier⟩ := List.forall_mem_cons.mp h.told
    exact List.forall_mem_cons.mpr ⟨told_of_note hcurrent rfl, hearlier⟩
  case run =>
    intro i x hx
    by_cases hi : i < rota.streams.length
    · rw [Rota.send, List.getElem?_append_left hi] at hx
      exact h.run i x hx
    · -- Nothing has happened yet to a stream that has just been sent.
      rw [Rota.send, List.getElem?_append_right (Nat.not_lt.mp hi)] at hx
      obtain ⟨c, -, rfl⟩ := List.mem_map.mp (List.mem_of_getElem? hx)
      change Run _ _ (rota.history i) _
      rw [h.history_eq_nil (Nat.not_lt.mp hi)]
      exact .refl _

theorem hangUp (h : rota.Fits config waiting s) :
    (rota.note [.hungUp]).Fits config waiting s.hangUp :=
  { h.note rfl rfl with settled := fun hsettled => ⟨rfl, (h.settled hsettled).2⟩ }

/-! ### Between two passes -/

theorem queue_join (hbase : rota.base ≤ rota.started) (n : Nat) :
    (rota.join n).queue = rota.queue ++ List.range' rota.started n := by
  have hsplit : List.range' rota.base (rota.started + n - rota.base) =
      List.range' rota.base (rota.started - rota.base) ++ List.range' rota.started n := by
    have hstarted : rota.base + (rota.started - rota.base) = rota.started := by omega
    have happend := List.range'_append_1 (s := rota.base) (m := rota.started - rota.base) (n := n)
    rw [hstarted] at happend
    rw [happend]
    congr 1
    omega
  rw [Rota.queue, Rota.queue, List.append_assoc _ _ (List.range' rota.started n), ← hsplit]
  rfl

theorem goesOn_join (hbase : rota.base ≤ rota.started) (n : Nat) :
    rota.GoesOn [] (rota.join n) where
  events := (List.append_nil _).symm
  passes := ⟨[], _, rfl, rfl, List.prefix_refl _⟩
  order := by
    rw [Rota.order, Rota.order, queue_join hbase, ← List.append_assoc]
    exact List.prefix_append ..
  closed := fun _ hpast _ => hpast

/-- The children of a batch have their streams started. -/
theorem start {found : List ChildReference}
    (h : rota.Fits config (.ok found :: waiting) s) (rotation : s.rotation = 0)
    (pulled : s.pulled = none) :
    (rota.join found.length).Fits config waiting (s.start found) := by
  let fresh (c : ChildReference) := (c, TaskRunLogs.stream ⟨config, c.name⟩)
  obtain ⟨hbase, hstarted⟩ := h.within
  have hunstarted : rota.streams.drop rota.started = (found ++ children waiting).map fresh :=
    h.unstarted
  rw [List.map_append] at hunstarted
  have hlength := congrArg List.length hunstarted
  rw [List.length_drop, List.length_append, List.length_map] at hlength
  have hroom : rota.started + found.length ≤ rota.streams.length := by omega
  refine { h with
    settled := fun hsettled => nomatch (h.settled hsettled).2
    unstarted := ?_
    within := ⟨Nat.le_add_right_of_le hbase, hroom⟩
    active := ?_
    underWay := fun under => absurd under (by simp [InterleavedLogs.start, rotation, pulled])
    asking := fun _ hst => nomatch pulled.symm.trans hst }
  · rw [Rota.join, ← List.drop_drop, hunstarted]
    exact List.drop_left' (List.length_map _)
  · have hjoined : (List.range' rota.started found.length).map (rota.join found.length).stream? =
        (found.map fun c => (⟨c.taskName, TaskRunLogs.stream ⟨s.config, c.name⟩⟩ : TaskStream)).map
          some := by
      have htake : (rota.streams.drop rota.started).take found.length = found.map fresh := by
        rw [hunstarted]
        exact List.take_left' (List.length_map _)
      have hstreams := map_getElem?_range' rota.streams rota.started hroom
      rw [htake] at hstreams
      have hmap := congrArg (List.map (Option.map fun x => (⟨x.1.taskName, x.2⟩ : TaskStream)))
        hstreams
      rw [List.map_map, List.map_map, List.map_map] at hmap
      rw [h.configured, List.map_map]
      exact hmap
    rw [InterleavedLogs.start, List.map_append, h.active, queue_join hbase, List.map_append,
      hjoined]
    rfl

theorem receive (h : rota.Fits config waiting s) (rotation : s.rotation = 0)
    (pulled : s.pulled = none) : ∃ n,
      (rota.join n).Fits config (s.receive waiting).2.inbox (s.receive waiting).2 := by
  induction waiting generalizing rota s with
  | nil =>
    refine ⟨0, { h with settled := fun hsettled => ⟨?_, rfl⟩ }⟩
    cases hd : s.discovering with
    | false => exact (h.settled hd).1
    | true => simpa [InterleavedLogs.receive, hd] using hsettled
  | cons batch waiting ih =>
    cases batch with
    | error e =>
      exact ⟨0, { h with settled := fun hsettled => nomatch (h.settled hsettled).2 }⟩
    | ok found =>
      obtain ⟨n, hn⟩ := ih (h.start rotation pulled) rotation pulled
      refine ⟨found.length + n, ?_⟩
      have hjoin : (rota.join found.length).join n = rota.join (found.length + n) := by
        rw [Rota.join, Rota.join, Rota.join, Nat.add_assoc]
      rwa [hjoin] at hn

theorem received (h : rota.Fits config s.inbox s) (pulled : s.pulled = none) :
    ∃ n, (rota.join n).Fits config s.received.2.inbox s.received.2 := by
  unfold InterleavedLogs.received receiveAll
  split
  · split
    · exact h.receive ‹_› pulled
    · exact ⟨0, h⟩
  · exact ⟨0, h⟩

/-- Whatever was sent is received between two passes, unless a failure is met. -/
theorem inbox_eq_nil (h : rota.Fits config s.inbox s) {s' : InterleavedLogs}
    (hs : s.received = (none, s')) (rotation : s.rotation = 0) : s'.inbox = [] := by
  rw [InterleavedLogs.received, if_pos rotation, receiveAll] at hs
  split at hs
  · exact (receive_all hs).1
  · rename_i hsettled
    cases hs
    exact (h.settled (by simpa using hsettled)).2

theorem fails (h : rota.Fits config waiting s) (rotation : s.rotation = 0)
    (pulled : s.pulled = none) (e : Failure) : (rota.fail e).Fits config waiting s := by
  have hevents : eventsOf (rota.fail e).passes =
      eventsOf rota.passes ++ [.happened (.yielded (.error e))] := (List.append_assoc ..).symm
  refine { h with
    sent := ?_
    underWay := fun under => absurd under (by simp [rotation, pulled])
    asking := fun _ hst => nomatch pulled.symm.trans hst
    told := ?_ }
  · rw [hevents, batches_append]
    exact h.sent.trans (congrArg children (List.append_nil _).symm)
  · obtain ⟨hcurrent, hearlier⟩ := List.forall_mem_cons.mp h.told
    refine List.forall_mem_cons.mpr ⟨?_, hearlier⟩
    rw [Rota.fail, told_append, hcurrent, Pass.shown, Pass.shown, List.map_append,
      List.append_assoc]
    rfl

theorem sent_length (h : rota.Fits config waiting s) :
    found (eventsOf rota.passes) = rota.streams.length := by
  rw [found, ← h.sent, List.length_map]

/-- There are only streams that were sent. -/
theorem lt_found (h : rota.Fits config waiting s) {i : Nat} {st : TaskStream}
    (hst : rota.stream? i = some st) : i < found (eventsOf rota.passes) := by
  obtain ⟨x, hx, -⟩ := Option.map_eq_some_iff.mp hst
  rw [h.sent_length]
  exact (List.getElem?_eq_some_iff.mp hx).1

theorem base_turnOver (h : rota.Fits config [] s) : rota.turnOver.base = rota.started := by
  have hnone : rota.streams.drop rota.started = [] := h.unstarted
  have hlength := List.drop_eq_nil_iff.mp hnone
  have hstarted : rota.streams.length = rota.started := by
    have hwithin := h.within.2
    omega
  exact h.sent_length.trans hstarted

theorem queue_turnOver (h : rota.Fits config [] s) : rota.turnOver.queue = rota.queue := by
  have hzero : rota.turnOver.started - rota.turnOver.base = 0 := by
    rw [h.base_turnOver]
    exact Nat.sub_self _
  rw [Rota.queue, hzero]
  exact (List.append_nil _).trans (List.append_nil _)

/-- The streams that are active when a pass is over make up the next one. -/
theorem turnOver (h : rota.Fits config [] s) (rotation : s.rotation = 0)
    (pulled : s.pulled = none) :
    rota.turnOver.Fits config [] { s with rotation := s.active.length } := by
  have hdone : rota.current.visits.map (·.stream) = rota.current.roster := by
    refine h.inOrder.eq_of_length ?_
    have hleft := h.left
    rw [List.length_map]
    omega
  have hroster : rota.queue = rota.current.kept ++
      List.range' (found (eventsOf rota.earlier)) (found rota.current.events) := by
    have hdrop : rota.current.roster.drop rota.current.visits.length = [] :=
      Pass.drop_visits ((List.append_nil _).trans hdone)
    have hnew : rota.started - rota.base = found rota.current.events := by
      have hbase := h.base_turnOver
      have happend : rota.turnOver.base = rota.base + found rota.current.events :=
        found_append ..
      omega
    rw [Rota.queue, hdrop, hnew]
    rfl
  have hevents : eventsOf rota.turnOver.passes = eventsOf rota.passes := List.append_nil _
  have hvisits : visitsOf rota.turnOver.passes = visitsOf rota.passes := List.append_nil _
  constructor
  case configured => exact h.configured
  case settled => exact h.settled
  case sent =>
    rw [hevents]
    exact h.sent
  case unstarted => exact h.unstarted
  case within => exact ⟨Nat.le_of_eq h.base_turnOver, h.within.2⟩
  case active =>
    rw [h.queue_turnOver]
    exact h.active
  case left =>
    have hlength := congrArg List.length h.active
    rw [List.length_map, List.length_map] at hlength
    exact hlength
  case underWay => exact fun _ => ⟨h.base_turnOver.symm, rfl⟩
  case idle => exact fun _ v hv => absurd hv List.not_mem_nil
  case asking =>
    intro st hst
    cases pulled.symm.trans hst
  case inOrder => exact List.nil_prefix
  case follows => exact ⟨hdone, hroster, h.follows⟩
  case closed => exact List.forall_mem_cons.mpr ⟨h.idle pulled, h.closed⟩
  case known =>
    rw [hvisits]
    exact h.known
  case told => exact List.forall_mem_cons.mpr ⟨rfl, h.told⟩
  case run =>
    intro i x hx
    rw [Rota.history, hvisits]
    exact h.run i x hx

theorem goesOn_turnOver (h : rota.Fits config [] s) : rota.GoesOn [] rota.turnOver where
  events := rfl
  passes := ⟨[_], rota.current, rfl, rfl, List.prefix_refl _⟩
  order := by
    have hvisits : visitsOf rota.turnOver.passes = visitsOf rota.passes := List.append_nil _
    have horder : rota.turnOver.order = rota.order := by
      rw [Rota.order, Rota.order, hvisits, h.queue_turnOver]
    exact horder ▸ List.prefix_refl _
  closed := fun _ hpast _ => hpast.trans (List.prefix_append ..)

end Fits

end Rota

end PipelineObserver.InterleavedLogs
