import PipelineObserver.Proofs.Aggregate.Fairness
/-!
Streams leave the rota one by one. One that has ended or has failed is never asked again, and every
other one that was started is asked or waits: `Rota.Fits.departed`, `Rota.Fits.stays`. What is seen
is told by the visits and by the failures of the discovery: `Rota.Ledger`.
-/
namespace PipelineObserver.InterleavedLogs

/-- The stream has ended or has failed, and so it is not asked any more. -/
inductive Visit.Leaves (v : Visit) : Prop
  | ended {t : List Exchange} (h : v.history = t.map .exchanged ++ [.yielded (.ok none)])
  | failed {t : List Exchange} {e : Failure}
      (h : v.history = t.map .exchanged ++ [.yielded (.error e)])

theorem toldLines_answered (t : List Exchange) (answer : Except Failure (Option String)) :
    LogLines.toldLines (t.map .exchanged ++ [.yielded answer]) =
      LogLines.toldLines [.yielded answer] := by
  rw [LogLines.toldLines_append, LogLines.toldLines, yields_asked]
  rfl

/-- A stream leaves with an answer that is no line. -/
theorem Visit.leaves_iff {v : Visit} : v.Leaves ↔ v.IsOver ∧ v.keeps = false := by
  constructor
  · rintro (h | h)
    all_goals
      refine ⟨⟨_, _, h⟩, ?_⟩
      rw [Visit.keeps, h, toldLines_answered]
      rfl
  · rintro ⟨⟨t, answer, h⟩, hkeeps⟩
    rw [Visit.keeps, h, toldLines_answered] at hkeeps
    rcases answer with e | _ | line
    · exact .failed h
    · exact .ended h
    · cases hkeeps

/-! ### One pass -/

namespace Pass

variable {r : Pass}

/-- The streams of a pass that are still to be asked, and then those that are active again. -/
def live (r : Pass) : List Nat := r.roster.drop r.visits.length ++ r.kept

theorem live_eq {left : List Nat} (h : r.visits.map (·.stream) ++ left = r.roster) :
    r.live = left ++ r.kept := by
  rw [live, drop_visits h]

theorem absent (hvisits : r.visits.map (·.stream) <+: r.roster) {i : Nat} (hi : i ∉ r.roster) :
    i ∉ r.visits.map (·.stream) ∧ i ∉ r.live := by
  have hasked : i ∉ r.visits.map (·.stream) := fun h => hi (hvisits.subset h)
  refine ⟨hasked, ?_⟩
  rw [live, List.mem_append, not_or]
  exact ⟨fun h => hi (List.mem_of_mem_drop h),
    fun h => hasked ((List.filter_sublist.map _).subset h)⟩

/-- A stream that has left is asked no more in the pass. -/
theorem departed (distinct : r.roster.Nodup) (hvisits : r.visits.map (·.stream) <+: r.roster)
    {past rest : List Visit} {v : Visit} (hsplit : r.visits = past ++ v :: rest)
    (hv : v.keeps = false) : v.stream ∉ rest.map (·.stream) ∧ v.stream ∉ r.live := by
  obtain ⟨left, hleft⟩ := hvisits
  rw [← hleft, hsplit, List.map_append, List.map_cons, List.append_assoc, List.cons_append,
    List.nodup_middle, List.nodup_cons, List.mem_append, List.mem_append, not_or, not_or]
    at distinct
  obtain ⟨⟨hpast, hrest, hleft'⟩, -⟩ := distinct
  refine ⟨hrest, ?_⟩
  rw [live_eq hleft, List.mem_append, not_or]
  refine ⟨hleft', fun hkept => ?_⟩
  obtain ⟨x, hx, hstream⟩ := List.mem_map.mp hkept
  obtain ⟨hmem, hkeeps⟩ := List.mem_filter.mp hx
  rw [hsplit, List.mem_append, List.mem_cons] at hmem
  rcases hmem with hmem | rfl | hmem
  · exact hpast (hstream ▸ List.mem_map_of_mem hmem)
  · cases hv.symm.trans hkeeps
  · exact hrest (hstream ▸ List.mem_map_of_mem hmem)

theorem accounted (hvisits : r.visits.map (·.stream) <+: r.roster) {i : Nat} (hi : i ∈ r.roster) :
    i ∈ r.live ∨ ∃ v ∈ r.visits, v.stream = i ∧ v.keeps = false := by
  obtain ⟨left, hleft⟩ := hvisits
  rw [live_eq hleft]
  rw [← hleft, List.mem_append] at hi
  rcases hi with hi | hi
  · obtain ⟨v, hv, rfl⟩ := List.mem_map.mp hi
    cases hkeeps : v.keeps with
    | true =>
      exact .inl (List.mem_append_right _
        (List.mem_map_of_mem (List.mem_filter.mpr ⟨hv, hkeeps⟩)))
    | false => exact .inr ⟨v, hv, rfl, hkeeps⟩
  · exact .inl (List.mem_append_left _ hi)

end Pass

/-! ### Pass after pass -/

namespace ComesAfter

variable {r : Pass} {earlier : List Pass}

theorem live {roster : List Nat} (h : ComesAfter roster (r :: earlier)) :
    roster = r.live ++ List.range' (found (eventsOf earlier)) (found r.events) ∧
      ComesAfter r.roster earlier ∧ r.visits.map (·.stream) <+: r.roster := by
  obtain ⟨hvisits, hroster, hafter⟩ := h
  have hlive : r.live = r.kept := Pass.live_eq ((List.append_nil _).trans hvisits)
  exact ⟨hlive ▸ hroster, hafter, hvisits ▸ List.prefix_refl _⟩

/-- Only streams are asked that were sent before the pass began. -/
theorem visited (h : ComesAfter r.roster earlier)
    (hvisits : r.visits.map (·.stream) <+: r.roster) :
    ∀ v ∈ visitsOf (r :: earlier), v.stream < found (eventsOf earlier) := by
  induction earlier generalizing r with
  | nil =>
    intro v hv
    exact h.nodup.2 _ (hvisits.subset (List.mem_map_of_mem hv))
  | cons r' earlier ih =>
    obtain ⟨-, hafter, hvisits'⟩ := h.live
    intro v hv
    rcases List.mem_append.mp hv with hv | hv
    · have hold := ih hafter hvisits' v hv
      rw [eventsOf, found_append]
      omega
    · exact h.nodup.2 _ (hvisits.subset (List.mem_map_of_mem hv))

/-- A stream that has left is asked no more. -/
theorem departed (h : ComesAfter r.roster earlier)
    (hvisits : r.visits.map (·.stream) <+: r.roster) {past rest : List Visit} {v : Visit}
    (hsplit : visitsOf (r :: earlier) = past ++ v :: rest) (hv : v.keeps = false) :
    v.stream ∉ rest.map (·.stream) ∧ v.stream ∉ r.live := by
  induction earlier generalizing r rest with
  | nil => exact Pass.departed h.nodup.1 hvisits hsplit hv
  | cons r' earlier ih =>
    obtain ⟨hroster, hafter, hvisits'⟩ := h.live
    rcases append_eq_append_cons hsplit with ⟨past', -, hsplit'⟩ | ⟨rest', hsplit', rfl⟩
    · exact Pass.departed h.nodup.1 hvisits hsplit' hv
    · obtain ⟨hrest, hlive⟩ := ih hafter hvisits' hsplit'
      have hlt : v.stream < found (eventsOf earlier) :=
        hafter.visited hvisits' v (hsplit' ▸ List.mem_append_right _ List.mem_cons_self)
      have hnew : v.stream ∉ List.range' (found (eventsOf earlier)) (found r'.events) :=
        fun hmem => absurd (List.mem_range'_1.mp hmem).1 (Nat.not_le.mpr hlt)
      have hroster' : v.stream ∉ r.roster := by
        rw [hroster, List.mem_append, not_or]
        exact ⟨hlive, hnew⟩
      obtain ⟨hlater, hlive'⟩ := Pass.absent hvisits hroster'
      rw [List.map_append, List.mem_append, not_or]
      exact ⟨⟨hrest, hlater⟩, hlive'⟩

/-- Every stream that was sent before the pass began is live, but for those that gave no line. -/
theorem accounted (h : ComesAfter r.roster earlier)
    (hvisits : r.visits.map (·.stream) <+: r.roster) {i : Nat}
    (hi : i < found (eventsOf earlier)) :
    i ∈ r.live ∨ ∃ v ∈ visitsOf (r :: earlier), v.stream = i ∧ v.keeps = false := by
  induction earlier generalizing r with
  | nil => exact absurd hi (Nat.not_lt_zero i)
  | cons r' earlier ih =>
    obtain ⟨hroster, hafter, hvisits'⟩ := h.live
    have hbefore : i ∈ r.roster ∨
        ∃ v ∈ visitsOf (r' :: earlier), v.stream = i ∧ v.keeps = false := by
      rw [hroster]
      by_cases hold : i < found (eventsOf earlier)
      · exact (ih hafter hvisits' hold).imp_left (List.mem_append_left _)
      · rw [eventsOf, found_append] at hi
        exact .inl (List.mem_append_right _ (List.mem_range'_1.mpr ⟨Nat.not_lt.mp hold, hi⟩))
    rcases hbefore with hmem | ⟨v, hv, hleft⟩
    · exact (Pass.accounted hvisits hmem).imp_right
        fun ⟨v, hv, hleft⟩ => ⟨v, List.mem_append_right _ hv, hleft⟩
    · exact .inr ⟨v, List.mem_append_left _ hv, hleft⟩

end ComesAfter

namespace Rota

variable {rota : Rota} {config : Config} {waiting : List ChildBatch} {s : InterleavedLogs}

namespace Fits

/-- A stream that has ended or has failed is never asked again. -/
theorem departed (h : rota.Fits config waiting s) {past rest : List Visit} {v : Visit}
    (hsplit : visitsOf rota.passes = past ++ v :: rest) (hv : v.Leaves) :
    v.stream ∉ rest.map (·.stream) ∧ v.stream ∉ rota.queue := by
  have hkeeps := (Visit.leaves_iff.mp hv).2
  obtain ⟨hrest, hlive⟩ := h.follows.departed h.inOrder hsplit hkeeps
  have hlt : v.stream < rota.base :=
    h.follows.visited h.inOrder v (by rw [← Rota.passes, hsplit]; simp)
  refine ⟨hrest, fun hmem => ?_⟩
  rcases List.mem_append.mp hmem with hmem | hmem
  · exact hlive hmem
  · exact absurd (List.mem_range'_1.mp hmem).1 (Nat.not_le.mpr hlt)

/-- Every stream that was started waits, is being asked, or has ended or failed. -/
theorem stays (h : rota.Fits config waiting s) {i : Nat} (hi : i < rota.started) :
    i ∈ rota.queue ∨
      (∃ before v st, s.pulled = some st ∧ rota.Asks before v st ∧ v.stream = i) ∨
      ∃ v ∈ visitsOf rota.passes, v.stream = i ∧ v.Leaves := by
  by_cases hold : i < rota.base
  · rcases h.follows.accounted h.inOrder hold with hlive | ⟨v, hv, hstream, hkeeps⟩
    · exact .inl (List.mem_append_left _ hlive)
    · cases hpulled : s.pulled with
      | none =>
        have hover := h.over_of_idle hpulled v hv
        exact .inr (.inr ⟨v, hv, hstream, Visit.leaves_iff.mpr ⟨hover, hkeeps⟩⟩)
      | some st =>
        obtain ⟨before, latest, asks⟩ := h.asking st hpulled
        have hmem := hv
        rw [← Rota.passes, visitsOf_asks asks] at hmem
        rcases List.mem_append.mp hmem with hpast | hlatest
        · have hover := h.isOver (visitsOf_asks asks) v hpast
          exact .inr (.inr ⟨v, hv, hstream, Visit.leaves_iff.mpr ⟨hover, hkeeps⟩⟩)
        · rw [List.mem_singleton.mp hlatest] at hstream
          exact .inr (.inl ⟨before, latest, st, rfl, asks, hstream⟩)
  · have hnew : i ∈ List.range' rota.base (rota.started - rota.base) :=
      List.mem_range'_1.mpr ⟨Nat.not_lt.mp hold, by omega⟩
    exact .inl (List.mem_append_right _ hnew)

end Fits

end Rota

/-! ### What is seen -/

/-- What is seen of some passes. -/
def shownOf : List Pass → List (Happening (Except Failure (Option (String × String))))
  | [] => []
  | r :: earlier => shownOf earlier ++ r.shown

/-- The failures of some passes: those of the streams that were asked, and after each pass those of
the discovery. -/
def raisedOf : List Pass → List Failure
  | [] => []
  | r :: earlier => raisedOf earlier ++
      ((r.visits.flatMap fun v => failures (yields v.history)) ++ r.failures)

theorem told_eventsOf {passes : List Pass} (h : ∀ r ∈ passes, told r.events = r.shown) :
    told (eventsOf passes) = shownOf passes := by
  induction passes with
  | nil => rfl
  | cons r earlier ih =>
    obtain ⟨hr, hearlier⟩ := List.forall_mem_cons.mp h
    rw [eventsOf, told_append, ih hearlier, hr, shownOf]

theorem raised_shown (task : String) (history : LogLines.Course) :
    failures (yields (history.flatMap (shown task))) = failures (yields history) := by
  induction history with
  | nil => rfl
  | cons h history ih =>
    rw [List.flatMap_cons, yields_append, failures_append, ih]
    rcases h with e | (e | _ | line) <;> rfl

theorem raised_visits (visits : List Visit) :
    failures (yields (visits.flatMap (·.shown))) =
      visits.flatMap fun v => failures (yields v.history) := by
  induction visits with
  | nil => rfl
  | cons v visits ih =>
    rw [List.flatMap_cons, List.flatMap_cons, yields_append, failures_append, ih, Visit.shown,
      raised_shown]

theorem raised_failures (met : List Failure) :
    failures (yields (met.map fun e =>
      (.yielded (.error e) : Happening (Except Failure (Option (String × String)))))) = met := by
  induction met with
  | nil => rfl
  | cons e met ih => exact congrArg (e :: ·) ih

theorem raised_shownOf (passes : List Pass) :
    failures (yields (shownOf passes)) = raisedOf passes := by
  induction passes with
  | nil => rfl
  | cons r earlier ih =>
    rw [shownOf, raisedOf, Pass.shown, yields_append, failures_append, ih, yields_append,
      failures_append, raised_visits, raised_failures]

/-- What the rota accounts for. -/
structure Rota.Ledger (rota : Rota) (s : InterleavedLogs) : Prop where
  -- What is seen is what happens in the visits, and the failures of the discovery.
  told : InterleavedLogs.told (eventsOf rota.passes) = shownOf rota.passes
  -- Each failure that is yielded is that of a visit or one of the discovery.
  raised : failures (yields (InterleavedLogs.told (eventsOf rota.passes))) = raisedOf rota.passes
  -- Each failure of the discovery that was sent was met once or waits.
  met : rota.Settled s.inbox
  -- A stream leaves once.
  once : ∀ past v rest, visitsOf rota.passes = past ++ v :: rest → v.Leaves →
    v.stream ∉ rest.map (·.stream) ∧ v.stream ∉ rota.queue
  -- Every other one that was started is still to be asked, or is being asked.
  stays : ∀ i < rota.started, i ∈ rota.queue ∨
    (∃ before v st, s.pulled = some st ∧ rota.Asks before v st ∧ v.stream = i) ∨
    ∃ v ∈ visitsOf rota.passes, v.stream = i ∧ v.Leaves

theorem Rota.Fits.ledger {rota : Rota} {config : Config} {s : InterleavedLogs}
    (h : rota.Fits config s.inbox s) (settled : rota.Settled s.inbox) : rota.Ledger s where
  told := told_eventsOf h.told
  raised := by rw [told_eventsOf h.told, raised_shownOf]
  met := settled
  once := fun _ _ _ hsplit hv => h.departed hsplit hv
  stays := fun _ hi => h.stays hi

end PipelineObserver.InterleavedLogs
