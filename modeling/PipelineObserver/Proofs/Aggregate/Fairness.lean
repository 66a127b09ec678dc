import PipelineObserver.Proofs.Aggregate.Interleaving
import PipelineObserver.Proofs.Aggregate.Visits
import PipelineObserver.Proofs.Logs.Following
/-!
The rotation of interleaved logs is fair: the streams are asked pass by pass, in the order of a
queue, and whoever joins in comes last.
-/
namespace PipelineObserver.InterleavedLogs

/-- Each of the streams of a pass is asked once, in their order. -/
structure Pass.Fair (r : Pass) (earlier : List Pass) : Prop where
  distinct : r.roster.Nodup
  -- A child that is sent meanwhile has to wait.
  early : ∀ i ∈ r.roster, i < found (eventsOf earlier)
  inOrder : r.visits.map (·.stream) <+: r.roster

/-- Each pass is fair, and is over when the next one begins. The streams that are active still are
asked again in the next one, and after them those of the children that were sent meanwhile. -/
structure Rota.Fair (rota : Rota) : Prop where
  passes : ∀ later r earlier, rota.passes = later ++ r :: earlier → r.Fair earlier
  next : ∀ later next r earlier, rota.passes = later ++ next :: r :: earlier →
    r.visits.map (·.stream) = r.roster ∧
    next.roster = r.kept ++ List.range' (found (eventsOf earlier)) (found r.events)
  queue : rota.queue.Nodup

theorem ComesAfter.of_append {roster : List Nat} {later earlier : List Pass} {r : Pass}
    (h : ComesAfter roster (later ++ r :: earlier)) :
    ComesAfter r.roster earlier ∧ r.visits.map (·.stream) = r.roster := by
  induction later generalizing roster with
  | nil => exact ⟨h.2.2, h.1⟩
  | cons next later ih => exact ih h.2.2

namespace Rota

variable {rota : Rota} {config : Config} {waiting : List ChildBatch} {s : InterleavedLogs}

namespace Fits

theorem follows_of_passes (h : rota.Fits config waiting s) {later earlier : List Pass} {r : Pass}
    (hpasses : rota.passes = later ++ r :: earlier) :
    ComesAfter r.roster earlier ∧ r.visits.map (·.stream) <+: r.roster := by
  cases later with
  | nil =>
    obtain ⟨rfl, rfl⟩ := List.cons.inj hpasses
    exact ⟨h.follows, h.inOrder⟩
  | cons current later =>
    obtain ⟨rfl, hearlier⟩ := List.cons.inj hpasses
    have hfollows := h.follows
    rw [hearlier] at hfollows
    obtain ⟨hafter, hvisits⟩ := hfollows.of_append
    exact ⟨hafter, hvisits ▸ List.prefix_refl _⟩

/-- The streams left in a pass never outnumber the active ones. -/
theorem paced (h : rota.Fits config waiting s) : s.rotation ≤ s.active.length := by
  have hleft := h.left
  have hactive := congrArg List.length h.active
  rw [List.length_map, List.length_map, Rota.queue, List.length_append, List.length_append,
    List.length_drop] at hactive
  omega

theorem queue_nodup (h : rota.Fits config waiting s) : rota.queue.Nodup := by
  obtain ⟨hnodup, hlt⟩ := h.follows.nodup
  obtain ⟨left, hleft⟩ := h.inOrder
  have hlive : (rota.current.kept ++ left).Sublist rota.current.roster := by
    rw [← hleft]
    exact (List.filter_sublist.map _).append (List.Sublist.refl left)
  rw [Rota.queue, Pass.drop_visits hleft, List.nodup_append]
  refine ⟨List.nodup_append_comm.mp (hlive.nodup hnodup), List.nodup_range', ?_⟩
  intro i hi j hj
  have hi := hlt i (hlive.mem (List.perm_append_comm.mem_iff.mp hi))
  have hj := (List.mem_range'_1.mp hj).1
  exact Nat.ne_of_lt (Nat.lt_of_lt_of_le hi hj)

theorem fair (h : rota.Fits config waiting s) : rota.Fair where
  passes := by
    intro later r earlier hpasses
    obtain ⟨hafter, hvisits⟩ := h.follows_of_passes hpasses
    exact ⟨hafter.nodup.1, hafter.nodup.2, hvisits⟩
  next := by
    intro later next r earlier hpasses
    obtain ⟨hvisits, hroster, -⟩ := (h.follows_of_passes hpasses).1
    exact ⟨hvisits, hroster⟩
  queue := h.queue_nodup

theorem over_earlier (h : rota.Fits config waiting s) :
    ∀ v ∈ visitsOf rota.earlier, v.IsOver := by
  have hover := h.closed
  generalize rota.earlier = earlier at hover
  induction earlier with
  | nil => nofun
  | cons r earlier ih =>
    obtain ⟨hr, hover⟩ := List.forall_mem_cons.mp hover
    exact List.forall_mem_append.mpr ⟨ih hover, hr⟩

theorem over_of_idle (h : rota.Fits config waiting s) (pulled : s.pulled = none) :
    ∀ v ∈ visitsOf rota.passes, v.IsOver :=
  List.forall_mem_append.mpr ⟨h.over_earlier, h.idle pulled⟩

/-- Every visit but the latest one is over. -/
theorem isOver (h : rota.Fits config waiting s) {past rest : List Visit} {latest : Visit}
    (hvisits : visitsOf rota.passes = past ++ latest :: rest) : ∀ v ∈ past, v.IsOver := by
  intro v hv
  cases hpulled : s.pulled with
  | none =>
    refine h.over_of_idle hpulled v ?_
    rw [hvisits]
    exact List.mem_append_left _ hv
  | some st =>
    obtain ⟨before, latest', asks⟩ := h.asking st hpulled
    have hpast := congrArg List.dropLast (hvisits.symm.trans (visitsOf_asks asks))
    rw [List.dropLast_concat, List.dropLast_append_of_ne_nil (List.cons_ne_nil _ _)] at hpast
    refine List.forall_mem_append.mpr ⟨h.over_earlier, asks.closed⟩ v ?_
    rw [← hpast]
    exact List.mem_append_left _ hv

/-- A stream that gives a line comes last from then on. -/
theorem gives (h : rota.Fits config s.inbox s) {t : List Exchange} {task line : String}
    {s' : InterleavedLogs}
    (ht : s.turn.Follows t (.turned (.yield (.ok (some (task, line))) s'))) :
    ∃ (rota' : Rota) (past : List Visit) (v : Visit),
      rota'.Fits config s'.inbox s' ∧
      rota.GoesOn (asked t ++ [.happened (.yielded (.ok (some (task, line))))]) rota' ∧
      s'.pulled = none ∧ visitsOf rota'.passes = past ++ [v] ∧ v.child.taskName = task ∧
      (∃ before, v.history = before ++ [.yielded (.ok (some line))]) ∧
      rota'.queue = rota.queue ++ [v.stream] := by
  cases hpulled : s.pulled with
  | none =>
    obtain ⟨-, hadvance⟩ := (follows_turn_none hpulled).mp ht
    have hadvances := advance_advances s
    rw [← hadvance] at hadvances
    cases hadvances
  | some st =>
    obtain ⟨x, hx, ho⟩ := (follows_turn_pulled hpulled).mp ht
    obtain ⟨before, v, asks, settled, hfits⟩ := h.pulls hpulled hx
    obtain ⟨-, htask⟩ := h.child_of_asks asks
    rcases x with l | ⟨e | _ | line', l⟩ <;> cases ho
    have hlines : (LogLines.toldLines
        (Turn.happenings t (.yield (.ok (some line)) l : LogLines.Outcome))).isEmpty = false := by
      rw [LogLines.toldLines, yields_happenings]
      rfl
    refine ⟨_, _, _, hfits, goesOn_tell asks settled, rfl, visitsOf_tell, htask.symm,
      ⟨_, (List.append_assoc v.history (t.map .exchanged) [.yielded (.ok (some line))]).symm⟩, ?_⟩
    rw [queue_tell asks settled, hlines]
    rfl

end Fits

/-- Until the last one of the queue is asked again, each of the others is asked once. -/
theorem GoesOn.between {rota' : Rota} {more : List Event} (h : rota.GoesOn more rota')
    {later : List Visit} (hvisits : visitsOf rota'.passes = visitsOf rota.passes ++ later)
    {others : List Nat} {i : Nat} (hqueue : rota.queue = others ++ [i]) (distinct : i ∉ others)
    {between after : List Visit} {again : Visit} (hlater : later = between ++ again :: after)
    (hagain : again.stream = i) (first : i ∉ between.map (·.stream)) :
    between.map (·.stream) = others := by
  have horder := h.order
  rw [Rota.order, Rota.order, hvisits, hqueue, hlater, List.map_append, List.append_assoc,
    List.prefix_append_right_inj, List.map_append, List.map_cons, hagain] at horder
  obtain ⟨rest, hrest⟩ := horder
  rw [List.append_assoc, List.append_assoc, List.cons_append, List.cons_append] at hrest
  rcases append_eq_append_cons hrest with ⟨bs, hbetween, hbs⟩ | ⟨bs, hothers, -⟩
  · cases bs with
    | nil => rw [hbetween, List.append_nil]
    | cons b bs =>
      obtain ⟨rfl, -⟩ := List.cons.inj hbs
      exact absurd (by rw [hbetween]; simp) first
  · exact absurd (by rw [hothers]; simp) distinct

end Rota

theorem found_sent (batch : List ChildReference) : found [.sent (.ok batch)] = batch.length := by
  simp [found, batches, children]

/-- A batch has to wait, and then its streams join in after those that are active still. -/
theorem Rota.Fair.joins (rota : Rota) {rota' : Rota} (fair : rota'.Fair)
    {batch : List ChildReference} {later : List Pass} {r : Pass}
    (hpasses : rota'.passes = later ++ r :: rota.earlier)
    (hsent : rota.current.events ++ [.sent (.ok batch)] <+: r.events) :
    (∀ i ∈ List.range' (found (eventsOf rota.passes)) batch.length, i ∉ r.visits.map (·.stream)) ∧
    ∀ rest next, later = rest ++ [next] → ∃ before after, next.roster = r.kept ++
      (before ++ List.range' (found (eventsOf rota.passes)) batch.length ++ after) := by
  have hfound : found (eventsOf rota.passes) = rota.base + found rota.current.events :=
    found_append ..
  rw [hfound]
  constructor
  · intro i hi hvisit
    obtain ⟨-, hearly, hinOrder⟩ := fair.passes later r rota.earlier hpasses
    have hlt : i < rota.base := hearly i (hinOrder.subset hvisit)
    have hle := (List.mem_range'_1.mp hi).1
    omega
  · rintro rest next rfl
    rw [List.append_assoc] at hpasses
    have hroster := (fair.next rest next r rota.earlier hpasses).2
    obtain ⟨others, hothers⟩ := hsent
    rw [← hothers, found_append, found_append, found_sent, ← List.range'_append_1,
      ← List.range'_append_1] at hroster
    exact ⟨_, _, hroster⟩

namespace Rota.Fits

variable {rota : Rota} {config : Config} {s s' : InterleavedLogs} {more : List Event}

theorem joins_next (h : rota.Fits config s.inbox s) (here : s.senderGone = false)
    {batch : List ChildReference} (course : Course (s.deliver (.ok batch)) more s') :
    ∃ (rota' : Rota) (later : List Pass) (r : Pass),
      rota'.Fits config s'.inbox s' ∧ rota'.Fair ∧ rota.GoesOn (.sent (.ok batch) :: more) rota' ∧
      rota'.passes = later ++ r :: rota.earlier ∧ r.roster = rota.current.roster ∧
      (∀ i ∈ List.range' (found (eventsOf rota.passes)) batch.length,
        i ∉ r.visits.map (·.stream)) ∧
      ∀ rest next, later = rest ++ [next] → ∃ before after, next.roster = r.kept ++
        (before ++ List.range' (found (eventsOf rota.passes)) batch.length ++ after) := by
  obtain ⟨rota', h', hgoes⟩ := (h.send here (.ok batch)).course course
  obtain ⟨later, r, hpasses, hroster, hsent⟩ := hgoes.passes
  obtain ⟨hwaits, hjoins⟩ := h'.fair.joins rota hpasses hsent
  exact ⟨rota', later, r, h', h'.fair, (goesOn_send rota config (.ok batch)).trans hgoes, hpasses,
    hroster, hwaits, hjoins⟩

/-- Until the stream of the latest visit, which comes last, is asked again, the others answer. -/
theorem others_answer (h : rota.Fits config s.inbox s) (pulled : s.pulled = none)
    {past : List Visit} {v : Visit} {others : List Nat}
    (hpast : visitsOf rota.passes = past ++ [v]) (hqueue : rota.queue = others ++ [v.stream])
    (course : Course s more s') : ∃ (rota' : Rota) (later : List Visit),
      rota'.Fits config s'.inbox s' ∧ rota'.Fair ∧ rota.GoesOn more rota' ∧
      visitsOf rota'.passes = past ++ v :: later ∧
      ∀ between again after, later = between ++ again :: after → again.stream = v.stream →
        v.stream ∉ between.map (·.stream) →
        between.map (·.stream) = others ∧ ∀ w ∈ between, w.IsOver := by
  obtain ⟨rota', h', hgoes⟩ := h.course course
  obtain ⟨later, hlater⟩ := hgoes.closed _ (List.prefix_refl _) (h.over_of_idle pulled)
  have hvisits : visitsOf rota'.passes = past ++ v :: later := by
    rw [← hlater, hpast, List.append_assoc]
    rfl
  have hdistinct : v.stream ∉ others := by
    have hnodup := h.queue_nodup
    rw [hqueue, List.nodup_append] at hnodup
    exact fun hmem => hnodup.2.2 _ hmem _ (List.mem_singleton_self _) rfl
  refine ⟨rota', later, h', h'.fair, hgoes, hvisits, ?_⟩
  intro between again after hsplit hagain hfirst
  have hsplit' : visitsOf rota'.passes = (past ++ v :: between) ++ again :: after := by
    rw [hvisits, hsplit, List.append_assoc]
    rfl
  refine ⟨hgoes.between hlater.symm hqueue hdistinct hsplit hagain hfirst, fun w hw => ?_⟩
  exact h'.isOver hsplit' w (List.mem_append_right _ (List.mem_cons_of_mem v hw))

end Rota.Fits

/-! ### Who is asked in the next pass, and again -/

theorem Rota.Asks.mem_visits {rota : Rota} {before : List Visit} {v : Visit} {st : TaskStream}
    (asks : rota.Asks before v st) : v.stream ∈ rota.current.visits.map (·.stream) := by
  rw [asks.visits]
  exact List.mem_map_of_mem List.mem_concat_self

/-- A stream that waits for the next pass is asked there, once it is asked at all. -/
theorem Rota.Fair.mem_next {rota : Rota} {later earlier : List Pass} {r : Pass} {i : Nat}
    (h : rota.Fair) (hpasses : rota.passes = later ++ r :: earlier)
    (now : i ∈ rota.current.visits.map (·.stream)) (before : i ∉ r.visits.map (·.stream))
    (joins : ∀ rest next, later = rest ++ [next] → i ∈ next.roster) : ∃ rest next,
      rota.passes = rest ++ next :: r :: earlier ∧ i ∈ next.visits.map (·.stream) := by
  rcases List.eq_nil_or_concat later with rfl | ⟨rest, next, rfl⟩
  · obtain ⟨rfl, -⟩ := List.cons.inj hpasses
    exact absurd now before
  · rw [List.concat_eq_append] at hpasses joins
    have hnext : rota.passes = rest ++ next :: r :: earlier := by
      rw [hpasses, List.append_assoc]
      rfl
    refine ⟨rest, next, hnext, ?_⟩
    -- The next pass is the current one, or it is over, with a visit of each of its streams.
    rcases List.eq_nil_or_concat rest with rfl | ⟨rest, after, rfl⟩
    · obtain ⟨rfl, -⟩ := List.cons.inj hnext
      exact now
    · rw [List.concat_eq_append, List.append_assoc] at hnext
      rw [(h.next rest after next _ hnext).1]
      exact joins _ next rfl

/-- Where no stream is left to be asked, the last one of a queue was asked again, after the others.
-/
theorem Rota.GoesOn.asks_again {rota rota' : Rota} {more : List Event} {past later : List Visit}
    {v : Visit} {others : List Nat} (h : rota.GoesOn more rota')
    (hpast : visitsOf rota.passes = past ++ [v]) (hqueue : rota.queue = others ++ [v.stream])
    (hvisits : visitsOf rota'.passes = past ++ v :: later) (hempty : rota'.queue = []) :
    ∃ between again after, later = between ++ again :: after ∧
      between.map (·.stream) = others ∧ again.stream = v.stream := by
  have hmap : (past ++ v :: later).map (·.stream) =
      (past ++ [v]).map (·.stream) ++ later.map (·.stream) := by
    rw [List.append_cons, List.map_append]
  have horder := h.order
  rw [Rota.order, Rota.order, hempty, hvisits, hpast, hqueue, List.append_nil, hmap,
    List.prefix_append_right_inj] at horder
  obtain ⟨rest, hrest⟩ := horder
  rw [List.append_assoc] at hrest
  obtain ⟨between, tail, rfl, hbetween, htail⟩ := List.map_eq_append_iff.mp hrest.symm
  obtain ⟨again, after, rfl, hagain, -⟩ := List.map_eq_cons_iff.mp htail
  exact ⟨between, again, after, rfl, hbetween, hagain⟩

/-- The rotation is fair, whatever is sent and whenever it is, and whatever the streams do. The
streams left in a pass never outnumber the active ones. While a stream is asked, a turn is one of
that stream. In every pass each of its streams is asked once. A batch that is sent has to wait as
long as the pass is under way, and its streams are asked in the next one, after those that are
active still. Once a stream has given a line, each of the other active ones is asked once, and
answers, before it is asked again. -/
theorem rotation_is_fair (p : PipelineRun) (events : List Event) (s : InterleavedLogs)
    (course : Course p.interleavedLogs events s) :
    ∃ rota : Rota, eventsOf rota.passes = events ∧ rota.Fits p.config s.inbox s ∧ rota.Fair ∧
      s.rotation ≤ s.active.length ∧
      (∀ st, s.pulled = some st → ∀ t o, s.turn.Follows t o ↔
        ∃ x, st.lines.turn.Follows t x ∧ o = .turned (s.afterPull st x)) ∧
      (∀ batch, s.senderGone = false → ∀ more s', Course (s.deliver (.ok batch)) more s' →
        ∃ (rota' : Rota) (later : List Pass) (r : Pass),
          rota'.Fits p.config s'.inbox s' ∧ rota'.Fair ∧
          rota.GoesOn (.sent (.ok batch) :: more) rota' ∧
          rota'.passes = later ++ r :: rota.earlier ∧ r.roster = rota.current.roster ∧
          (∀ i ∈ List.range' (found events) batch.length, i ∉ r.visits.map (·.stream)) ∧
          ∀ rest next, later = rest ++ [next] → ∃ before after, next.roster =
            r.kept ++ (before ++ List.range' (found events) batch.length ++ after)) ∧
      ∀ t task line s', s.turn.Follows t (.turned (.yield (.ok (some (task, line))) s')) →
        ∃ (rota' : Rota) (past : List Visit) (v : Visit) (others : List Nat),
          rota'.Fits p.config s'.inbox s' ∧ rota'.Fair ∧
          rota.GoesOn (asked t ++ [.happened (.yielded (.ok (some (task, line))))]) rota' ∧
          visitsOf rota'.passes = past ++ [v] ∧ v.child.taskName = task ∧
          (∃ before, v.history = before ++ [.yielded (.ok (some line))]) ∧
          rota'.queue = others ++ [v.stream] ∧
          ∀ more s'', Course s' more s'' → ∃ (rota'' : Rota) (later : List Visit),
            rota''.Fits p.config s''.inbox s'' ∧ rota''.Fair ∧ rota'.GoesOn more rota'' ∧
            visitsOf rota''.passes = past ++ v :: later ∧
            ∀ between again after, later = between ++ again :: after →
              again.stream = v.stream → v.stream ∉ between.map (·.stream) →
              between.map (·.stream) = others ∧ ∀ w ∈ between, w.IsOver := by
  obtain ⟨rota, h, hgoes⟩ := (Rota.fits_start p.config).course course
  have hevents : eventsOf rota.passes = events := hgoes.events
  refine ⟨rota, hevents, h, h.fair, h.paced, fun st hst t o => follows_turn_pulled hst, ?_, ?_⟩
  · intro batch here more s' course'
    rw [← hevents]
    exact h.joins_next here course'
  · intro t task line s' ht
    obtain ⟨rota', past, v, h', hgoes', hpulled, hpast, htask, hline, hqueue⟩ := h.gives ht
    exact ⟨rota', past, v, rota.queue, h', h'.fair, hgoes', hpast, htask, hline, hqueue,
      fun more s'' course' => h'.others_answer hpulled hpast hqueue course'⟩

/-! A task run that is found while another one is asked. -/

def lateChild : ChildReference := ⟨some "TaskRun", "run-test", some "test"⟩

def lateStream : TaskStream := ⟨"test", TaskRunLogs.stream ⟨lostRun.config, "run-test"⟩⟩

theorem course_asking : Course lostRun.interleavedLogs [.sent (.ok [lostChild])]
    { config := lostRun.config, pulled := some lostStream } := by
  have hsent := Course.start.step (Step.send (s := lostRun.interleavedLogs) (.ok [lostChild]) rfl)
  have hpull : (turn (lostRun.interleavedLogs.deliver (.ok [lostChild]))).Follows []
      (.turned (.again { config := lostRun.config, pulled := some lostStream })) := .done _
  exact hsent.step (.turn hpull)

/-- The other one is lost, and then the one that was found is asked. -/
theorem course_late : Course
    (deliver { config := lostRun.config, pulled := some lostStream } (.ok [lateChild]))
    (asked lostExchanges) { config := lostRun.config, pulled := some lateStream } := by
  have hlost := follows_lost { config := lostRun.config, inbox := [.ok [lateChild]] }
  have hpull : (turn { config := lostRun.config, inbox := [.ok [lateChild]] }).Follows []
      (.turned (.again { config := lostRun.config, pulled := some lateStream })) := .done _
  exact (Course.start.step (.turn hlost)).step (.turn hpull)

/-- Of two streams that were sent, the second is asked. -/
theorem stream_of_late {i : Nat} {child : ChildReference}
    (hchild : [lostChild, lateChild][i]? = some child) (htask : lateStream.task = child.taskName) :
    i = 1 := by
  match i with
  | 0 =>
    cases hchild
    exact absurd htask (by decide)
  | 1 => rfl
  | i + 2 => cases hchild

/-! A task run that is read gives a line, another one is lost, and the first one is asked again. -/

/-- While nothing is yielded, a run of the stream that is asked is a course of the logs. -/
theorem course_of_run {origin : InterleavedLogs} {events : List Event}
    (before : Course origin events s) {st : TaskStream} (pulled : s.pulled = some st)
    {t : List Exchange} {l : LogLines} (run : Run LogLines.turn st.lines (t.map .exchanged) l) :
    Course origin (events ++ asked t) { s with pulled := some { st with lines := l } } := by
  refine run.keeps_silent (P := fun t l =>
    Course origin (events ++ asked t) { s with pulled := some { st with lines := l } }) ?_ ?_
  · intro before l t l' hbefore ht
    have hturn := (follows_turn_pulled (s := { s with pulled := some { st with lines := l } })
      rfl).mpr ⟨_, ht, rfl⟩
    rw [asked, List.map_append, ← List.append_assoc]
    exact hbefore.step (.turn hturn)
  · rw [← pulled]
    exact (List.append_nil events).symm ▸ before

def compileChild : ChildReference := ⟨some "TaskRun", "build", some "compile"⟩

def compileStream (lines : LogLines) : TaskStream := ⟨"compile", lines⟩

/-- The first stream is read, and the other one waits. -/
def compilingPair (lines : LogLines) : InterleavedLogs where
  config := lostRun.config
  active := [lostStream]
  rotation := 1
  pulled := some (compileStream lines)

def afterCompiling : InterleavedLogs where
  config := lostRun.config
  active := [lostStream, compileStream (LogLines.compiling (some 2) 5)]
  rotation := 1

theorem course_compiling : ∃ events, Course lostRun.interleavedLogs events
    (compilingPair (LogLines.compiling (some 2) 0)) := by
  have hsent := Course.start.step
    (Step.send (s := lostRun.interleavedLogs) (.ok [compileChild, lostChild]) rfl)
  have hpull : (turn (lostRun.interleavedLogs.deliver (.ok [compileChild, lostChild]))).Follows []
      (.turned (.again (compilingPair LogLines.hosted.stream))) := .done _
  have hgates : Run LogLines.turn LogLines.hosted.stream
      ((exchanges LogLines.hostedGating).map .exchanged) _ := LogLines.run_hosted_gates
  have hopened := (hgates.then_turn LogLines.hosted_taken.follows).then_turn
    LogLines.hosted_opened.follows
  rw [Turn.happenings, Turn.happenings, ← List.map_append, ← List.map_append] at hopened
  exact ⟨_, course_of_run (hsent.step (.turn hpull)) rfl hopened⟩

theorem follows_compiling : (compilingPair (LogLines.compiling (some 2) 0)).turn.Follows
    [⟨.readLine 2, .ok (some "compiling")⟩, ⟨.now, (5 : Nat)⟩]
    (.turned (.yield (.ok (some ("compile", "compiling"))) afterCompiling)) :=
  (follows_turn_pulled rfl).mpr ⟨_, LogLines.hosted_line.follows, rfl⟩

/-- The other one is lost, and the first one is asked again. -/
theorem course_after_compiling : Course afterCompiling (asked lostExchanges)
    { config := lostRun.config
      pulled := some (compileStream (LogLines.compiling (some 2) 5)) } := by
  have hother : afterCompiling.turn.Follows [] (.turned (.again
      { config := lostRun.config
        active := [compileStream (LogLines.compiling (some 2) 5)]
        pulled := some lostStream })) := .done _
  have hlost := follows_lost
    { config := lostRun.config, active := [compileStream (LogLines.compiling (some 2) 5)] }
  have hagain : (turn { config := lostRun.config
                        active := [compileStream (LogLines.compiling (some 2) 5)] }).Follows []
      (.turned (.again
        { config := lostRun.config
          pulled := some (compileStream (LogLines.compiling (some 2) 5)) })) := .done _
  exact ((Course.start.step (.turn hother)).step (.turn hlost)).step (.turn hagain)

/-- The late stream is asked in the pass after the one in which it was found. Between two visits of
a stream the other one answers once. -/
theorem rotation_is_fair_late :
    (Course lostRun.interleavedLogs [.sent (.ok [lostChild])]
        { config := lostRun.config, pulled := some lostStream } ∧
      ∃ (rota : Rota) (later : List Pass) (next r : Pass) (earlier : List Pass),
        rota.Fits lostRun.config [] { config := lostRun.config, pulled := some lateStream } ∧
        rota.Fair ∧ rota.passes = later ++ next :: r :: earlier ∧
        0 ∈ r.visits.map (·.stream) ∧ 1 ∉ r.visits.map (·.stream) ∧
        1 ∈ next.visits.map (·.stream)) ∧
    (∃ events, Course lostRun.interleavedLogs events
        (compilingPair (LogLines.compiling (some 2) 0))) ∧
    ∃ (rota rota' : Rota) (past between after : List Visit) (v again : Visit) (others : List Nat),
      rota.Fits lostRun.config [] afterCompiling ∧
      rota'.Fits lostRun.config [] { config := lostRun.config
                                     pulled := some (compileStream (.compiling (some 2) 5)) } ∧
      rota.queue = others ++ [v.stream] ∧ others.map rota.stream? = [some lostStream] ∧
      visitsOf rota'.passes = past ++ v :: (between ++ again :: after) ∧
      again.stream = v.stream ∧ between.map (·.stream) = others ∧ ∀ w ∈ between, w.IsOver := by
  obtain ⟨events, hcompiling⟩ := course_compiling
  refine ⟨⟨course_asking, ?_⟩, ⟨events, hcompiling⟩, ?_⟩
  · obtain ⟨rota, hevents, h, -, -, -, hlate, -⟩ := rotation_is_fair lostRun _ _ course_asking
    obtain ⟨rota', later, r, h', hfair, hgoes, hpasses, hroster, hwaits, hjoins⟩ :=
      hlate [lateChild] rfl _ _ course_late
    have hlast : 1 ∈ rota'.current.visits.map (·.stream) := by
      obtain ⟨before, v, asks⟩ := h'.asking lateStream rfl
      obtain ⟨hchild, htask⟩ := h'.child_of_asks asks
      have hsent := congrArg (·[v.stream]?) h'.sent
      rw [hgoes.events, hevents, List.getElem?_map, hchild] at hsent
      exact stream_of_late hsent.symm htask ▸ asks.mem_visits
    obtain ⟨rest, next, hpasses', hnext⟩ := hfair.mem_next hpasses hlast
      (hwaits 1 (List.mem_singleton_self 1)) fun rest next hlater => by
        obtain ⟨before, others, hjoined⟩ := hjoins rest next hlater
        simp [hjoined, found_sent]
    refine ⟨rota', rest, next, r, rota.earlier, h', hfair, hpasses', ?_,
      hwaits 1 (List.mem_singleton_self 1), hnext⟩
    rw [(hfair.next rest next r _ hpasses').1, hroster]
    obtain ⟨before, v, asks⟩ := h.asking lostStream rfl
    -- Only one stream had been sent by then.
    have hlt := h.lt_found asks.stream
    rw [hevents] at hlt
    exact Nat.lt_one_iff.mp hlt ▸ h.inOrder.subset asks.mem_visits
  · obtain ⟨rota, -, -, -, -, -, -, hgives⟩ := rotation_is_fair lostRun _ _ hcompiling
    obtain ⟨rota', past, v, others, h', hfair, -, hpast, -, -, hqueue, hlater⟩ :=
      hgives _ _ _ _ follows_compiling
    obtain ⟨rota'', later, h'', -, hgoes, hvisits, hbetween⟩ := hlater _ _ course_after_compiling
    have hempty : rota''.queue = [] := List.map_eq_nil_iff.mp h''.active.symm
    obtain ⟨between, again, after, hsplit, hothers, hagain⟩ :=
      hgoes.asks_again hpast hqueue hvisits hempty
    have hdistinct := hfair.queue
    rw [hqueue, ← hothers, List.nodup_append] at hdistinct
    have hfirst : v.stream ∉ between.map (·.stream) := fun hmem =>
      hdistinct.2.2 _ hmem _ (List.mem_singleton_self _) rfl
    obtain ⟨-, hover⟩ := hbetween between again after hsplit hagain hfirst
    have hactive : [some lostStream] ++ [_] = rota'.queue.map rota'.stream? := h'.active
    rw [hqueue, List.map_append] at hactive
    exact ⟨rota', rota'', past, between, after, v, again, others, h', h'', hqueue,
      (List.append_inj' hactive rfl).1.symm, hsplit ▸ hvisits, hagain, hothers, hover⟩

end PipelineObserver.InterleavedLogs
