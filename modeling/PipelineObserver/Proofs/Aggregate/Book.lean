import Mathlib.Data.List.Nodup
import PipelineObserver.Proofs.Aggregate.Course
import PipelineObserver.Proofs.Runs
/-!
The book that is kept of interleaved logs: which children have a stream, and what happened to it. It
can be kept through every step: `Book.Fits.step`.
-/
namespace PipelineObserver.InterleavedLogs

/-- The children whose streams were started, and what became of the streams. -/
structure Book where
  started : List ChildReference
  trace : Trace
  lines : Nat → LogLines
  -- The streams that wait for their turn.
  queue : List Nat
  -- The stream that is being asked.
  current : Option Nat

namespace Book

variable (b : Book)

def stream (i : Nat) : TaskStream := ⟨taskOf b.started i, b.lines i⟩

/-- The streams that have not ended. -/
def live : List Nat := b.current.toList ++ b.queue

/-- The book fits a state that was come to, with some batches still to be received. -/
structure Fits (b : Book) (config : Config) (events : List Event) (waiting : List ChildBatch)
    (s : InterleavedLogs) : Prop where
  configured : s.config = config
  active : s.active = b.queue.map b.stream
  pulled : s.pulled = b.current.map b.stream
  -- Every child that was sent was started, or is waiting.
  sent : b.started ++ children waiting = children (batches events)
  gone : s.senderGone = true ↔ .hungUp ∈ events
  settled : s.discovering = false → s.senderGone = true ∧ waiting = []
  paced : s.rotation ≤ s.active.length
  -- What happened to a stream is a run of it.
  run : ∀ i c, b.started[i]? = some c →
    Run LogLines.turn (TaskRunLogs.stream ⟨config, c.name⟩) (b.trace.history i) (b.lines i)
  distinct : b.live.Nodup
  inside : ∀ i ∈ b.live, i < b.started.length
  ended : ∀ i < b.started.length, i ∉ b.live →
    ∃ before, b.trace.history i = before ++ [.yielded (.ok none)]
  known : ∀ x ∈ b.trace, x.1 < b.started.length
  told : told events = b.trace.shown b.started

/-- The streams of a child that joins in. -/
def join (config : Config) (c : ChildReference) : Book where
  started := b.started ++ [c]
  trace := b.trace
  lines i := if i = b.started.length then TaskRunLogs.stream ⟨config, c.name⟩ else b.lines i
  queue := b.queue ++ [b.started.length]
  current := b.current

/-- More that happened to a stream, and its lines after that. -/
def tell (i : Nat) (more : List (Happening (Except Failure (Option String)))) (l : LogLines) :
    Book where
  started := b.started
  trace := b.trace ++ more.map fun h => (i, h)
  lines j := if j = i then l else b.lines j
  queue := b.queue
  current := b.current

end Book

theorem taskOf_append (started : List ChildReference) (c : ChildReference) (i : Nat)
    (h : i < started.length) : taskOf (started ++ [c]) i = taskOf started i := by
  unfold taskOf
  rw [List.getElem?_append_left h]

theorem Trace.shown_append_started (started : List ChildReference) (c : ChildReference)
    (trace : Trace) (h : ∀ x ∈ trace, x.1 < started.length) :
    trace.shown (started ++ [c]) = trace.shown started := by
  unfold Trace.shown
  apply List.flatMap_congr
  intro x hx
  rw [taskOf_append started c x.1 (h x hx)]

theorem Trace.shown_append (started : List ChildReference) (trace more : Trace) :
    Trace.shown started (trace ++ more) = trace.shown started ++ more.shown started :=
  List.flatMap_append

theorem Trace.shown_map (started : List ChildReference) (i : Nat)
    (more : List (Happening (Except Failure (Option String)))) :
    Trace.shown started (more.map fun h => (i, h)) =
      more.flatMap (InterleavedLogs.shown (taskOf started i)) := by
  simp only [Trace.shown, List.flatMap_map]

theorem Trace.history_append (trace more : Trace) (i : Nat) :
    Trace.history (trace ++ more) i = trace.history i ++ more.history i := by
  simp only [Trace.history, List.filter_append, List.map_append]

theorem Trace.history_map_self (i : Nat)
    (more : List (Happening (Except Failure (Option String)))) :
    Trace.history (more.map fun h => (i, h)) i = more := by
  induction more with
  | nil => rfl
  | cons h more ih => simpa [Trace.history] using ih

theorem Trace.history_map_other {i j : Nat} (hij : j ≠ i)
    (more : List (Happening (Except Failure (Option String)))) :
    Trace.history (more.map fun h => (i, h)) j = [] := by
  induction more with
  | nil => rfl
  | cons h more ih => simp [Trace.history, hij.symm]

theorem told_append (events more : List Event) :
    told (events ++ more) = told events ++ told more := List.filterMap_append

theorem batches_append (events more : List Event) :
    batches (events ++ more) = batches events ++ batches more := List.filterMap_append

theorem children_append (first second : List ChildBatch) :
    children (first ++ second) = children first ++ children second := List.flatMap_append

theorem told_asked (t : List Exchange) : InterleavedLogs.told (asked t) = t.map .exchanged := by
  induction t with
  | nil => rfl
  | cons e t ih => exact congrArg _ ih

theorem batches_asked (t : List Exchange) : batches (asked t) = [] := by
  induction t with
  | nil => rfl
  | cons e t ih => exact ih

theorem hungUp_not_mem_asked (t : List Exchange) : Event.hungUp ∉ asked t := by
  simp [asked]

theorem shown_exchanged (task : String) (t : List Exchange) :
    (t.map .exchanged).flatMap (shown task) = t.map .exchanged := by
  induction t with
  | nil => rfl
  | cons e t ih => exact congrArg _ ih

theorem told_pulled (s : InterleavedLogs) (st : TaskStream) (t : List Exchange)
    (x : LogLines.Outcome) : told (seen t (.turned (s.afterPull st x))) =
      (x.happenings t).flatMap (shown st.task) := by
  rcases x with l | ⟨e | _ | line, l⟩
  · exact (told_asked t).trans (shown_exchanged _ t).symm
  all_goals
    rw [Turn.happenings, List.flatMap_append, shown_exchanged]
  · rw [afterPull, seen, told_append, told_asked]
    rfl
  · exact (told_asked t).trans (List.append_nil _).symm
  · rw [afterPull, seen, told_append, told_asked]
    rfl

theorem batches_pulled (s : InterleavedLogs) (st : TaskStream) (t : List Exchange)
    (x : LogLines.Outcome) : batches (seen t (.turned (s.afterPull st x))) = [] := by
  rcases x with l | ⟨e | _ | line, l⟩
  · exact batches_asked t
  · rw [afterPull, seen, batches_append, batches_asked]
    rfl
  · exact batches_asked t
  · rw [afterPull, seen, batches_append, batches_asked]
    rfl

theorem hungUp_not_mem_pulled (s : InterleavedLogs) (st : TaskStream) (t : List Exchange)
    (x : LogLines.Outcome) : .hungUp ∉ seen t (.turned (s.afterPull st x)) := by
  rcases x with l | ⟨e | _ | line, l⟩ <;> simp [seen, afterPull, hungUp_not_mem_asked]

namespace Book.Fits

variable {b : Book} {config : Config} {events : List Event} {waiting : List ChildBatch}
  {s : InterleavedLogs}

theorem join {c : ChildReference} {found : List ChildReference}
    (h : b.Fits config events (.ok (c :: found) :: waiting) s) :
    (b.join config c).Fits config events (.ok found :: waiting) (s.start [c]) := by
  have hold : ∀ i ∈ b.live, (b.join config c).stream i = b.stream i := by
    intro i hi
    have hlt := h.inside i hi
    have hne : i ≠ b.started.length := by omega
    simp only [Book.stream, Book.join, taskOf_append b.started c i hlt, hne, ↓reduceIte]
  have hnew : (b.join config c).stream b.started.length =
      ⟨c.taskName, TaskRunLogs.stream ⟨config, c.name⟩⟩ := by
    simp [Book.stream, Book.join, taskOf]
  have hlive : (b.join config c).live = b.live ++ [b.started.length] :=
    (List.append_assoc ..).symm
  have hlength : (b.join config c).started.length = b.started.length + 1 := List.length_append
  have hnone : b.trace.history b.started.length = [] := by
    simp only [Trace.history, List.map_eq_nil_iff, List.filter_eq_nil_iff, decide_eq_true_eq]
    intro x hx
    have hlt := h.known x hx
    omega
  constructor
  case configured => exact h.configured
  case active =>
    have hqueue : b.queue.map (b.join config c).stream = b.queue.map b.stream :=
      List.map_congr_left fun i hi => hold i (List.mem_append_right _ hi)
    calc (s.start [c]).active
        = s.active ++ [⟨c.taskName, TaskRunLogs.stream ⟨s.config, c.name⟩⟩] := rfl
      _ = b.queue.map (b.join config c).stream ++ [(b.join config c).stream b.started.length] := by
        rw [h.active, h.configured, hnew, hqueue]
      _ = (b.join config c).queue.map (b.join config c).stream := by
        simp [Book.join]
  case pulled =>
    refine h.pulled.trans ?_
    cases hc : b.current with
    | none => simp [Book.join, hc]
    | some i =>
      have hi : i ∈ b.live := by simp [Book.live, hc]
      simp [Book.join, hc, ← hold i hi]
  case sent => simpa [Book.join, children] using h.sent
  case gone => exact h.gone
  case settled =>
    intro hsettled
    cases (h.settled hsettled).2
  case paced =>
    have hpaced := h.paced
    simp only [InterleavedLogs.start, List.length_append]
    omega
  case run =>
    intro i d hi
    -- Nothing has happened yet to the stream that joins in.
    by_cases hlast : i = b.started.length
    · subst hlast
      have hd : c = d := by simpa [Book.join] using hi
      subst hd
      have hlines : (b.join config c).lines b.started.length =
          TaskRunLogs.stream ⟨config, c.name⟩ := if_pos rfl
      rw [hlines]
      change Run _ _ (b.trace.history b.started.length) _
      rw [hnone]
      exact .refl _
    · have hlt : i < b.started.length := by
        have hlt := (List.getElem?_eq_some_iff.mp hi).1
        omega
      have hlines : (b.join config c).lines i = b.lines i := if_neg hlast
      rw [hlines]
      exact h.run i d (by rwa [Book.join, List.getElem?_append_left hlt] at hi)
  case distinct =>
    rw [hlive, List.nodup_append]
    refine ⟨h.distinct, List.nodup_singleton _, ?_⟩
    intro i hi j hj hij
    have hlt := h.inside i hi
    have hj := List.mem_singleton.mp hj
    omega
  case inside =>
    intro i hi
    rw [hlive, List.mem_append, List.mem_singleton] at hi
    rcases hi with hi | hi
    · have hlt := h.inside i hi
      omega
    · omega
  case ended =>
    intro i hi hnot
    rw [hlive, List.mem_append, List.mem_singleton, not_or] at hnot
    exact h.ended i (by omega) hnot.1
  case known =>
    intro x hx
    have hlt := h.known x hx
    omega
  case told =>
    exact h.told.trans (Trace.shown_append_started b.started c b.trace h.known).symm

theorem start_cons (s : InterleavedLogs) (c : ChildReference) (found : List ChildReference) :
    s.start (c :: found) = (s.start [c]).start found := by
  simp [InterleavedLogs.start]

/-- All children of a batch join in, in their order. -/
theorem start {found : List ChildReference}
    (h : b.Fits config events (.ok found :: waiting) s) :
    ∃ b' : Book, b'.Fits config events waiting (s.start found) ∧ b'.current = b.current := by
  induction found generalizing b s with
  | nil =>
    refine ⟨b, ?_, rfl⟩
    have hs : s.start [] = s := by simp [InterleavedLogs.start]
    rw [hs]
    exact { h with
      sent := h.sent
      settled := fun hsettled => ⟨(h.settled hsettled).1, by cases (h.settled hsettled).2⟩ }
  | cons c found ih =>
    rw [start_cons]
    obtain ⟨b', hb', hcurrent⟩ := ih h.join
    exact ⟨b', hb', hcurrent⟩

theorem receive (h : b.Fits config events waiting s) {s' : InterleavedLogs}
    (hs : s.receive waiting = (none, s')) :
    ∃ b' : Book, b'.Fits config events [] s' ∧ b'.current = b.current := by
  induction waiting generalizing b s with
  | nil =>
    cases hs
    refine ⟨b, { h with settled := ?_ }, rfl⟩
    intro hsettled
    refine ⟨?_, rfl⟩
    cases hd : s.discovering with
    | false => exact (h.settled hd).1
    | true => simpa [hd] using hsettled
  | cons batch waiting ih =>
    cases batch with
    | error e => cases hs
    | ok found =>
      obtain ⟨b', hb', hcurrent⟩ := h.start
      obtain ⟨b'', hb'', hcurrent'⟩ := ih hb' hs
      exact ⟨b'', hb'', hcurrent'.trans hcurrent⟩

theorem received (h : b.Fits config events s.inbox s) {s' : InterleavedLogs}
    (hs : s.received = (none, s')) :
    ∃ b' : Book, b'.Fits config events s'.inbox s' ∧ b'.current = b.current := by
  have hsame (heq : ((none : Option Failure), s) = (none, s')) :
      ∃ b' : Book, b'.Fits config events s'.inbox s' ∧ b'.current = b.current := by
    cases heq
    exact ⟨b, h, rfl⟩
  unfold InterleavedLogs.received receiveAll at hs
  split at hs
  · split at hs
    · obtain ⟨b', hb', hcurrent⟩ := h.receive hs
      exact ⟨b', by rwa [(receive_all hs).1], hcurrent⟩
    · exact hsame hs
  · exact hsame hs

theorem pull (h : b.Fits config events waiting s) (hcurrent : b.current = none)
    {stream : TaskStream} {rest : List TaskStream} (hactive : s.active = stream :: rest) :
    ∃ b' : Book, b'.Fits config events waiting
      { s with
        active := rest
        rotation := (if s.rotation = 0 then s.active.length else s.rotation) - 1
        pulled := some stream } := by
  have hpaced := h.paced
  rw [hactive, List.length_cons] at hpaced
  cases hqueue : b.queue with
  | nil => rw [h.active, hqueue] at hactive; cases hactive
  | cons i queue =>
    rw [h.active, hqueue, List.map_cons, List.cons.injEq] at hactive
    obtain ⟨rfl, rfl⟩ := hactive
    have hlive : Book.live { b with queue := queue, current := some i } = b.live := by
      simp [Book.live, hcurrent, hqueue]
    exact ⟨{ b with queue := queue, current := some i }, { h with
      active := rfl
      pulled := rfl
      paced := by
        simp only [h.active, hqueue, List.length_map, List.length_cons] at hpaced ⊢
        split <;> omega
      distinct := by rw [hlive]; exact h.distinct
      inside := by rw [hlive]; exact h.inside
      ended := by rw [hlive]; exact h.ended }⟩

/-- Something happens to the stream that is asked. -/
theorem tell (more : List Event) {i : Nat} {l : LogLines}
    {news : List (Happening (Except Failure (Option String)))}
    (h : b.Fits config events waiting s) (hcurrent : b.current = some i)
    (hrun : Run LogLines.turn (b.lines i) news l)
    (htold : InterleavedLogs.told more = news.flatMap (shown (taskOf b.started i)))
    (hbatches : batches more = []) (hgone : .hungUp ∉ more) :
    (b.tell i news l).Fits config (events ++ more) waiting
      { s with pulled := some { b.stream i with lines := l } } := by
  have hi : i ∈ b.live := by simp [Book.live, hcurrent]
  have hqueue : i ∉ b.queue := by
    have hdistinct := h.distinct
    simp only [Book.live, hcurrent, Option.toList_some, List.singleton_append,
      List.nodup_cons] at hdistinct
    exact hdistinct.1
  have hhistory (j : Nat) (hj : j ≠ i) :
      (b.tell i news l).trace.history j = b.trace.history j := by
    rw [Book.tell, Trace.history_append, Trace.history_map_other hj, List.append_nil]
  constructor
  case configured => exact h.configured
  case active =>
    refine h.active.trans (List.map_congr_left fun j hj => ?_)
    have hne : j ≠ i := by
      rintro rfl
      exact hqueue hj
    simp [Book.stream, Book.tell, hne]
  case pulled => simp [Book.stream, Book.tell, hcurrent]
  case sent => rw [batches_append, hbatches, List.append_nil]; exact h.sent
  case gone => simp [h.gone, hgone]
  case settled => exact h.settled
  case paced => exact h.paced
  case run =>
    intro j c hj
    by_cases hji : j = i
    · subst hji
      have hlines : (b.tell j news l).lines j = l := if_pos rfl
      rw [hlines, Book.tell, Trace.history_append, Trace.history_map_self]
      exact (h.run j c hj).trans hrun
    · have hlines : (b.tell i news l).lines j = b.lines j := if_neg hji
      rw [hlines, hhistory j hji]
      exact h.run j c hj
  case distinct => exact h.distinct
  case inside => exact h.inside
  case ended =>
    -- The stream that something happens to is live, so none that has ended is told of.
    intro j hj hnot
    have hji : j ≠ i := by
      rintro rfl
      exact hnot hi
    rw [hhistory j hji]
    exact h.ended j hj hnot
  case known =>
    intro x hx
    rw [Book.tell, List.mem_append] at hx
    rcases hx with hx | hx
    · exact h.known x hx
    · obtain ⟨_, -, rfl⟩ := List.mem_map.mp hx
      exact h.inside i hi
  case told =>
    rw [told_append, h.told, htold, Book.tell, Trace.shown_append, Trace.shown_map]

/-- The stream that was asked waits for its next turn. -/
theorem requeue {i : Nat} (h : b.Fits config events waiting s) (hcurrent : b.current = some i) :
    Book.Fits { b with queue := b.queue ++ [i], current := none } config events waiting
      { s with pulled := none, active := s.active ++ [b.stream i] } := by
  have hmem (j : Nat) : j ∈ Book.live { b with queue := b.queue ++ [i], current := none } ↔
      j ∈ b.live := by
    simp [Book.live, hcurrent, or_comm]
  have hdistinct := h.distinct
  simp only [Book.live, hcurrent, Option.toList_some, List.singleton_append,
    List.nodup_cons] at hdistinct
  exact { h with
    active := by rw [h.active, List.map_append]; rfl
    pulled := rfl
    paced := by
      have hmore : s.active.length ≤ (s.active ++ [b.stream i]).length := by
        rw [List.length_append]
        omega
      exact Nat.le_trans h.paced hmore
    distinct := by
      simp only [Book.live, Option.toList_none, List.nil_append, List.nodup_append,
        List.nodup_singleton, List.mem_singleton, true_and]
      refine ⟨hdistinct.2, ?_⟩
      rintro j hj _ rfl rfl
      exact hdistinct.1 hj
    inside := fun j hj => h.inside j ((hmem j).mp hj)
    ended := fun j hj hnot => h.ended j hj fun hlive => hnot ((hmem j).mpr hlive) }

theorem drop {i : Nat} (h : b.Fits config events waiting s) (hcurrent : b.current = some i)
    (hended : ∃ before, b.trace.history i = before ++ [.yielded (.ok none)]) :
    Book.Fits { b with current := none } config events waiting { s with pulled := none } := by
  have hlive : b.live = i :: b.queue := by simp [Book.live, hcurrent]
  have hdistinct := h.distinct
  have hinside := h.inside
  rw [hlive] at hdistinct hinside
  exact { h with
    pulled := rfl
    distinct := (List.nodup_cons.mp hdistinct).2
    inside := fun j hj => hinside j (List.mem_cons_of_mem i hj)
    ended := by
      intro j hj hnot
      by_cases hji : j = i
      · exact hji ▸ hended
      · apply h.ended j hj
        rw [hlive, List.mem_cons, not_or]
        exact ⟨hji, hnot⟩ }

/-- A turn of the stream that is asked. -/
theorem turn_pulled (h : b.Fits config events s.inbox s) {i : Nat} (hcurrent : b.current = some i)
    {t : List Exchange} {x : LogLines.Outcome} (hx : (b.lines i).turn.Follows t x)
    (faultless : ∀ e, .happened (.yielded (.error e)) ∉
      seen t (.turned (s.afterPull (b.stream i) x))) :
    ∃ b' : Book, b'.Fits config (events ++ seen t (.turned (s.afterPull (b.stream i) x)))
      (stateAfter (.turned (s.afterPull (b.stream i) x))).inbox
      (stateAfter (.turned (s.afterPull (b.stream i) x))) := by
  have hrun : Run LogLines.turn (b.lines i) (x.happenings t) x.state := .then_turn (.refl _) hx
  have htell := tell _ h hcurrent hrun (told_pulled s (b.stream i) t x)
    (batches_pulled s (b.stream i) t x) (hungUp_not_mem_pulled s (b.stream i) t x)
  rcases x with l | ⟨e | _ | line, l⟩
  · exact ⟨_, htell⟩
  · exact absurd (List.mem_append_right _ (List.mem_singleton_self _)) (faultless e)
  · -- The stream has ended.
    refine ⟨_, htell.drop hcurrent ⟨b.trace.history i ++ t.map .exchanged, ?_⟩⟩
    rw [Book.tell, Trace.history_append, Trace.history_map_self]
    exact (List.append_assoc ..).symm
  · -- The stream gave a line.
    have hstream : (b.tell i (t.map .exchanged ++ [.yielded (.ok (some line))]) l).stream i =
        { b.stream i with lines := l } := by
      simp [Book.stream, Book.tell]
    have hqueued := htell.requeue hcurrent
    rw [Turn.happenings, Turn.state_yield, hstream] at hqueued
    exact ⟨_, hqueued⟩

/-- Nothing was told, and nothing was sent. -/
theorem append_silent (h : b.Fits config events waiting s) {more : List Event}
    (hbatches : batches more = []) (htold : InterleavedLogs.told more = [])
    (hgone : .hungUp ∉ more) : b.Fits config (events ++ more) waiting s := by
  refine { h with sent := ?_, gone := ?_, told := ?_ }
  · rw [batches_append, hbatches, List.append_nil]
    exact h.sent
  · rw [List.mem_append, h.gone]
    exact ⟨.inl, fun hmem => hmem.resolve_right hgone⟩
  · rw [told_append, htold, List.append_nil]
    exact h.told

theorem turn_advances (h : b.Fits config events s.inbox s) (hcurrent : b.current = none)
    {o : Advance} (ho : Advances s o)
    (faultless : ∀ e, .happened (.yielded (.error e)) ∉ seen [] o) :
    ∃ b' : Book, b'.Fits config (events ++ seen [] o) (stateAfter o).inbox (stateAfter o) := by
  cases ho with
  | @fails e _ _ =>
    exact absurd (List.mem_append_right _ (List.mem_singleton_self _)) (faultless e)
  | pulls hs hactive =>
    obtain ⟨b', hb', hcurrent'⟩ := h.received hs
    obtain ⟨b'', hb''⟩ := hb'.pull (hcurrent'.trans hcurrent) hactive
    exact ⟨b'', hb''.append_silent rfl rfl List.not_mem_nil⟩
  | waits hs _ _ =>
    obtain ⟨b', hb', -⟩ := h.received hs
    exact ⟨b', hb'.append_silent rfl rfl List.not_mem_nil⟩
  | ends hs _ _ =>
    obtain ⟨b', hb', -⟩ := h.received hs
    exact ⟨b', hb'.append_silent rfl rfl (by simp [seen, asked])⟩

theorem send (h : b.Fits config events s.inbox s) (here : s.senderGone = false)
    (batch : ChildBatch) :
    b.Fits config (events ++ [.sent batch]) (s.deliver batch).inbox (s.deliver batch) := by
  refine { h with sent := ?_, gone := ?_, settled := ?_, told := ?_ }
  · have hbatch : batches [.sent batch] = [batch] := rfl
    rw [deliver, children_append, batches_append, children_append, ← List.append_assoc, h.sent,
      hbatch]
  · simp [deliver, h.gone]
  · intro hsettled
    cases here.symm.trans (h.settled hsettled).1
  · rw [told_append]
    exact (List.append_nil _).trans h.told

theorem hangUp (h : b.Fits config events s.inbox s) :
    b.Fits config (events ++ [.hungUp]) s.hangUp.inbox s.hangUp := by
  refine { h with sent := ?_, gone := ?_, settled := ?_, told := ?_ }
  · rw [batches_append, children_append]
    exact h.sent.trans (List.append_nil _).symm
  · simp [InterleavedLogs.hangUp]
  · intro hsettled
    exact ⟨rfl, (h.settled hsettled).2⟩
  · rw [told_append]
    exact (List.append_nil _).trans h.told

/-- The book can be kept through every step that yields no failure. -/
theorem step {more : List Event} {s' : InterleavedLogs} (h : b.Fits config events s.inbox s)
    (hs : Step s more s') (faultless : ∀ e, .happened (.yielded (.error e)) ∉ more) :
    ∃ b' : Book, b'.Fits config (events ++ more) s'.inbox s' := by
  cases hs with
  | send batch here => exact ⟨b, h.send here batch⟩
  | hangUp _ => exact ⟨b, h.hangUp⟩
  | turn ht =>
    have hpulled := h.pulled
    cases hcurrent : b.current with
    | none =>
      rw [hcurrent] at hpulled
      obtain ⟨rfl, rfl⟩ := (follows_turn_none hpulled).mp ht
      exact h.turn_advances hcurrent (advance_advances s) faultless
    | some i =>
      rw [hcurrent] at hpulled
      obtain ⟨x, hx, rfl⟩ := (follows_turn_pulled hpulled).mp ht
      exact h.turn_pulled hcurrent hx faultless

end Book.Fits

end PipelineObserver.InterleavedLogs
