import Mathlib.Data.List.Nodup
import PipelineObserver.Proofs.Watch.Budgets
import PipelineObserver.Proofs.Watch.Items
import PipelineObserver.Tracker.PipelineRun
/-!
The discovery of task runs: every task run that the watch of a pipeline run shows is found once, in
the order in which they come first, and nothing is asked after the end.
-/
namespace PipelineObserver.ChildWatch

/-- The batches among what a discovery yielded. -/
def batches (items : List (Except Failure (Option (List ChildReference)))) :
    List (List ChildReference) :=
  items.filterMap fun
    | .ok (some batch) => some batch
    | _ => none

/-- The children of kind `TaskRun` that some snapshots show. -/
def shown (snapshots : List Snapshot) : List ChildReference :=
  snapshots.flatMap fun s => s.children.filter fun c => c.kind = some "TaskRun"

/-- The first of the children under each name, in their order. -/
def firstByName : List ChildReference → List ChildReference
  | [] => []
  | c :: rest => c :: (firstByName rest).filter fun d => d.name ≠ c.name

theorem mem_names_firstByName (children : List ChildReference) (name : String) :
    name ∈ (firstByName children).map (·.name) ↔ name ∈ children.map (·.name) := by
  induction children with
  | nil => rfl
  | cons c rest ih =>
    rw [List.map_cons, List.mem_cons, ← ih]
    by_cases hname : name = c.name
    · simp [firstByName, hname]
    · simp only [firstByName, List.map_cons, List.mem_cons, hname, false_or, List.mem_map,
        List.mem_filter, ne_eq, decide_not, Bool.not_eq_true', decide_eq_false_iff_not]
      constructor
      · rintro ⟨d, ⟨hd, -⟩, hdname⟩
        exact ⟨d, hd, hdname⟩
      · rintro ⟨d, hd, rfl⟩
        exact ⟨d, ⟨hd, hname⟩, rfl⟩

theorem nodup_firstByName (children : List ChildReference) :
    ((firstByName children).map (·.name)).Nodup := by
  induction children with
  | nil => exact List.nodup_nil
  | cons c rest ih =>
    rw [firstByName, List.map_cons, List.nodup_cons]
    constructor
    · simp
    · have hsublist : ((firstByName rest).filter fun d => d.name ≠ c.name).Sublist
          (firstByName rest) := List.filter_sublist
      exact (hsublist.map (·.name)).nodup ih

theorem firstByName_append (children more : List ChildReference) :
    firstByName (children ++ more) = firstByName children ++
      (firstByName more).filter fun d => d.name ∉ children.map (·.name) := by
  induction children with
  | nil => simp [firstByName]
  | cons c rest ih =>
    have hfilter : ((firstByName more).filter fun d => d.name ∉ rest.map (·.name)).filter
          (fun d => d.name ≠ c.name) =
        (firstByName more).filter fun d => d.name ∉ (c :: rest).map (·.name) := by
      rw [List.filter_filter]
      apply List.filter_congr
      intro d _
      simp
    rw [List.cons_append, firstByName, ih, List.filter_append, hfilter]
    rfl

theorem newcomers_eq (seen : List String) (children : List ChildReference) :
    newcomers seen children =
      ((firstByName children).filter fun d => d.name ∉ seen,
        (((firstByName children).filter fun d => d.name ∉ seen).map (·.name)).reverse ++ seen) := by
  induction children generalizing seen with
  | nil => rfl
  | cons c rest ih =>
    rw [newcomers]
    by_cases hseen : c.name ∈ seen
    · have hfilter : (firstByName (c :: rest)).filter (fun d => d.name ∉ seen) =
          (firstByName rest).filter fun d => d.name ∉ seen := by
        rw [firstByName, List.filter_cons_of_neg (by simpa using hseen), List.filter_filter]
        apply List.filter_congr
        intro d _
        by_cases hd : d.name = c.name <;> simp [hd, hseen]
      rw [if_pos (List.contains_iff_mem.mpr hseen), ih seen, hfilter]
    · have hfilter : (firstByName (c :: rest)).filter (fun d => d.name ∉ seen) =
          c :: (firstByName rest).filter fun d => d.name ∉ c.name :: seen := by
        rw [firstByName, List.filter_cons_of_pos (by simpa using hseen), List.filter_filter]
        congr 1
        apply List.filter_congr
        intro d _
        simp [Bool.and_comm]
      rw [if_neg (by simpa using hseen), ih (c.name :: seen), hfilter]
      simp

/-! ### One turn -/

variable {w : ChildWatch} {t : List Exchange} {o : Outcome}

/-- What follows from a turn of the watch. -/
def after (w : ChildWatch) : WatchChannel.Outcome → Outcome
  | .again ch | .yield (.ok (some .unknown)) ch => .again { w with channel := ch }
  | .yield (.error e) ch => .yield (.error e) { w with channel := ch }
  | .yield (.ok none) ch | .yield (.ok (some .absent)) ch =>
    .yield (.ok none) { w with channel := ch, finished := true }
  | .yield (.ok (some (.snapshot s))) ch => { w with channel := ch }.examine s

theorem follows_turn_iff (h : w.finished = false) :
    w.turn.Follows t o ↔ ∃ c, w.channel.turn.Follows t c ∧ o = w.after c := by
  have hturn : w.turn = w.channel.turn.bind fun c => .done (w.after c) := by
    rw [turn, if_neg (Bool.not_eq_true _ ▸ h), Dialogue.bind_eq]
    congr 1
    funext c
    rcases c with ch | ⟨e | _ | _ | _ | _, ch⟩ <;> rfl
  rw [hturn, Dialogue.follows_bind_iff]
  constructor
  · rintro ⟨u, v, c, rfl, hc, hdone⟩
    obtain ⟨rfl, rfl⟩ := Dialogue.follows_done_iff.mp hdone
    exact ⟨c, by rwa [List.append_nil], rfl⟩
  · rintro ⟨c, hc, rfl⟩
    exact ⟨t, [], c, (List.append_nil t).symm, hc, .done _⟩

theorem turn_finished (h : w.finished = true) : w.turn = .done (.yield (.ok none) w) := if_pos h

/-- Once a discovery is finished, or its watch is at an end, its turns tell that and nothing else. -/
theorem turn_over
    (h : w.finished = true ∨ w.channel.state = .exhausted ∨ w.channel.state = .failed) :
    ∃ w', w.turn = .done (.yield (.ok none) w') ∧ w'.finished = true := by
  cases hfinished : w.finished with
  | true => exact ⟨w, turn_finished hfinished, hfinished⟩
  | false =>
    have hover : w.channel.state = .exhausted ∨ w.channel.state = .failed := by
      simpa [hfinished] using h
    refine ⟨{ w with finished := true }, ?_, rfl⟩
    simp only [turn, hfinished, Bool.false_eq_true, ↓reduceIte, WatchChannel.turn_over hover]
    rfl

/-- A discovery asks nothing once it is finished, nor once its watch is at an end. -/
theorem silent_of_over
    (h : w.finished = true ∨ w.channel.state = .exhausted ∨ w.channel.state = .failed) :
    Silent turn w := by
  apply Silent.of_turns (P := fun w : ChildWatch =>
    w.finished = true ∨ w.channel.state = .exhausted ∨ w.channel.state = .failed) _ h
  intro w h
  obtain ⟨w', hturn, hfinished⟩ := turn_over h
  exact ⟨w', hturn, .inl hfinished⟩

/-! ### What is found -/

theorem batches_append (items more : List (Except Failure (Option (List ChildReference)))) :
    batches (items ++ more) = batches items ++ batches more := List.filterMap_append

/-- The batches hold what the snapshots show, and the names seen are those of the batches. -/
structure Found (told : List (Except Failure (Option WatchItem)))
    (items : List (Except Failure (Option (List ChildReference)))) (seen : List String) :
    Prop where
  found : (batches items).flatten = firstByName (shown (snapshots told))
  seen : seen = ((batches items).flatten.map (·.name)).reverse
  nonempty : [] ∉ batches items

variable {told more : List (Except Failure (Option WatchItem))}
  {items new : List (Except Failure (Option (List ChildReference)))}

theorem Found.pass {seen : List String} (h : Found told items seen) (hmore : snapshots more = [])
    (hnew : batches new = []) : Found (told ++ more) (items ++ new) seen := by
  have hbatches : batches (items ++ new) = batches items := by
    rw [batches_append, hnew, List.append_nil]
  have hsnapshots : snapshots (told ++ more) = snapshots told := by
    rw [snapshots_append, hmore, List.append_nil]
  constructor
  · rw [hbatches, hsnapshots, h.found]
  · rw [hbatches, h.seen]
  · rw [hbatches]
    exact h.nonempty

/-- A discovery after a snapshot. -/
def examined (w : ChildWatch) (s : Snapshot) : ChildWatch :=
  { w with seen := (newcomers w.seen s.taskRuns).2, finished := s.isTerminal }

theorem examine_eq (w : ChildWatch) (s : Snapshot) : w.examine s =
    match (newcomers w.seen s.taskRuns).1 with
    | [] => .again (w.examined s)
    | c :: found => .yield (.ok (some (c :: found))) (w.examined s) := by
  change (if (newcomers w.seen s.taskRuns).1.isEmpty then .again (w.examined s)
    else .yield (.ok (some (newcomers w.seen s.taskRuns).1)) (w.examined s) : Outcome) = _
  cases (newcomers w.seen s.taskRuns).1 <;> rfl

theorem state_examine (w : ChildWatch) (s : Snapshot) : (w.examine s).state = w.examined s := by
  rw [examine_eq]
  cases (newcomers w.seen s.taskRuns).1 <;> rfl

theorem batches_examine (w : ChildWatch) (s : Snapshot) :
    (batches (w.examine s).yields).flatten = (newcomers w.seen s.taskRuns).1 ∧
      [] ∉ batches (w.examine s).yields := by
  rw [examine_eq]
  cases (newcomers w.seen s.taskRuns).1 with
  | nil => exact ⟨rfl, List.not_mem_nil⟩
  | cons c found => simp [batches, Turn.yields]

theorem Found.examine (h : Found told items w.seen) (s : Snapshot) :
    Found (told ++ [.ok (some (.snapshot s))]) (items ++ (w.examine s).yields)
      (w.examine s).state.seen := by
  obtain ⟨hflatten, hnonempty⟩ := batches_examine w s
  have hnewcomers := newcomers_eq w.seen s.taskRuns
  have hunseen : ((firstByName s.taskRuns).filter fun d => d.name ∉ w.seen) =
      (firstByName s.taskRuns).filter
        fun d => d.name ∉ (shown (snapshots told)).map (·.name) := by
    apply List.filter_congr
    intro d _
    rw [decide_eq_decide, h.seen, h.found, List.mem_reverse, mem_names_firstByName]
  have hshown : shown (snapshots (told ++ [.ok (some (.snapshot s))])) =
      shown (snapshots told) ++ s.taskRuns := by
    rw [snapshots_append, shown, List.flatMap_append]
    exact congrArg _ (List.append_nil s.taskRuns)
  constructor
  · rw [batches_append, List.flatten_append, hflatten, hnewcomers, h.found, hshown,
      firstByName_append, hunseen]
  · rw [batches_append, List.flatten_append, hflatten, state_examine, examined, hnewcomers,
      List.map_append, List.reverse_append, ← h.seen]
  · rw [batches_append, List.mem_append, not_or]
    exact ⟨h.nonempty, hnonempty⟩

/-! ### When a discovery ends -/

/-- A discovery is finished after a snapshot in an end state, and when the pipeline run is absent;
and it is finished only then or at the end of the watch. -/
structure Ends (told : List (Except Failure (Option WatchItem)))
    (items : List (Except Failure (Option (List ChildReference)))) (w : ChildWatch) : Prop where
  failures : ∀ e, .error e ∈ items ↔ .error e ∈ told
  early : ∀ s ∈ (snapshots told).dropLast, s.isTerminal = false
  finished : (∃ s ∈ snapshots told, s.isTerminal = true) ∨ .ok (some .absent) ∈ told →
    w.finished = true
  cause : w.finished = true → (∃ s ∈ snapshots told, s.isTerminal = true) ∨
    .ok (some .absent) ∈ told ∨ w.channel.state = .exhausted ∨ w.channel.state = .failed
  ended : .ok none ∈ items → w.finished = true

section Ends

variable {w' : ChildWatch}

theorem Ends.unfinished (h : Ends told items w) (hf : w.finished = false) :
    (∀ s ∈ snapshots told, s.isTerminal = false) ∧ .ok (some .absent) ∉ told ∧ .ok none ∉ items := by
  have hnot {p : Prop} (hp : p → w.finished = true) : ¬ p := by
    intro h
    rw [hp h] at hf
    cases hf
  refine ⟨?_, hnot fun habsent => h.finished (.inr habsent), hnot h.ended⟩
  intro s hs
  have hterminal := hnot fun hterminal => h.finished (.inl ⟨s, hs, hterminal⟩)
  simpa using hterminal

/-- More is told that ends nothing. -/
theorem Ends.pass (h : Ends told items w) (hf : w.finished = false) (hf' : w'.finished = false)
    (hmore : snapshots more = []) (habsent : .ok (some .absent) ∉ more) (hnone : .ok none ∉ new)
    (hfailures : ∀ e, .error e ∈ new ↔ .error e ∈ more) : Ends (told ++ more) (items ++ new) w' := by
  obtain ⟨hearly, habsent', hnone'⟩ := h.unfinished hf
  have hsnapshots : snapshots (told ++ more) = snapshots told := by
    rw [snapshots_append, hmore, List.append_nil]
  constructor
  case failures =>
    intro e
    rw [List.mem_append, List.mem_append, h.failures, hfailures]
  case early =>
    rw [hsnapshots]
    exact h.early
  case finished =>
    rw [hsnapshots, List.mem_append]
    rintro (⟨s, hs, hterminal⟩ | hmem | hmem)
    · rw [hearly s hs] at hterminal
      cases hterminal
    · exact absurd hmem habsent'
    · exact absurd hmem habsent
  case cause =>
    intro hfinished
    rw [hf'] at hfinished
    cases hfinished
  case ended =>
    rw [List.mem_append]
    rintro (hmem | hmem)
    · exact absurd hmem hnone'
    · exact absurd hmem hnone

/-- The pipeline run is absent, or the watch is at its end. -/
theorem Ends.finish (h : Ends told items w) (hf' : w'.finished = true) (hmore : snapshots more = [])
    (hnew : new = [.ok none]) (hfailures : ∀ e, .error e ∉ more)
    (hover : .ok (some .absent) ∈ more ∨ w'.channel.state = .exhausted ∨
      w'.channel.state = .failed) : Ends (told ++ more) (items ++ new) w' := by
  have hsnapshots : snapshots (told ++ more) = snapshots told := by
    rw [snapshots_append, hmore, List.append_nil]
  constructor
  case failures =>
    intro e
    simp [h.failures, hnew, hfailures]
  case early =>
    rw [hsnapshots]
    exact h.early
  case finished => exact fun _ => hf'
  case cause =>
    intro _
    rw [List.mem_append]
    rcases hover with habsent | hover
    · exact .inr (.inl (.inr habsent))
    · exact .inr (.inr hover)
  case ended => exact fun _ => hf'

theorem Ends.examine (h : Ends told items w) (hf : w.finished = false) (s : Snapshot) :
    Ends (told ++ [.ok (some (.snapshot s))]) (items ++ (w.examine s).yields) (w.examined s) := by
  obtain ⟨hearly, habsent, hnone⟩ := h.unfinished hf
  have hsnapshots : snapshots (told ++ [.ok (some (.snapshot s))]) = snapshots told ++ [s] :=
    snapshots_append told _
  have hyields (a : Except Failure (Option (List ChildReference)))
      (ha : a ∈ (w.examine s).yields) : ∃ found, a = .ok (some found) := by
    rw [examine_eq] at ha
    cases hfound : (newcomers w.seen s.taskRuns).1 with
    | nil => simp [hfound, Turn.yields] at ha
    | cons c found => exact ⟨c :: found, by simpa [hfound, Turn.yields] using ha⟩
  constructor
  case failures =>
    intro e
    have hnew : .error e ∉ (w.examine s).yields := by
      intro he
      obtain ⟨found, heq⟩ := hyields _ he
      cases heq
    simp [h.failures, hnew]
  case early =>
    rw [hsnapshots, List.dropLast_concat]
    exact hearly
  case finished =>
    rw [hsnapshots]
    rintro (⟨r, hr, hterminal⟩ | hmem)
    · rcases List.mem_append.mp hr with hr | hr
      · rw [hearly r hr] at hterminal
        cases hterminal
      · rwa [List.mem_singleton.mp hr] at hterminal
    · simp [habsent] at hmem
  case cause =>
    intro hterminal
    rw [hsnapshots]
    exact .inl ⟨s, List.mem_append_right _ (List.mem_singleton_self s), hterminal⟩
  case ended =>
    rw [List.mem_append]
    rintro (hmem | hmem)
    · exact absurd hmem hnone
    · obtain ⟨found, heq⟩ := hyields _ hmem
      cases heq

/-- Before the end it does not matter how the watch goes on. -/
theorem Ends.move (h : Ends told items w) (hf : w.finished = false) (ch : WatchChannel) :
    Ends told items { w with channel := ch } := by
  refine { h with cause := fun hfinished => ?_ }
  have hf' : w.finished = true := hfinished
  rw [hf] at hf'
  cases hf'

end Ends

/-! ### Every run -/

/-- What a discovery has come to after its watch told some items. -/
structure Fits (origin : WatchChannel) (told : Tracker.Course)
    (happened : List (Happening (Except Failure (Option (List ChildReference)))))
    (w : ChildWatch) : Prop where
  run : Run WatchChannel.turn origin told w.channel
  asked : exchanges happened = exchanges told
  found : Found (yields told) (yields happened) w.seen
  ends : Ends (yields told) (yields happened) w

theorem channel_after (w : ChildWatch) (c : WatchChannel.Outcome) :
    (w.after c).state.channel = c.state := by
  rcases c with ch | ⟨e | _ | s | _ | _, ch⟩
  case yield.ok.some.snapshot => exact congrArg channel (state_examine { w with channel := ch } s)
  all_goals rfl

theorem Found.after (h : Found told items w.seen) (c : WatchChannel.Outcome) :
    Found (told ++ c.yields) (items ++ (w.after c).yields) (w.after c).state.seen := by
  rcases c with ch | ⟨e | _ | s | _ | _, ch⟩
  case yield.ok.some.snapshot => exact h.examine (w := { w with channel := ch }) s
  all_goals exact h.pass rfl rfl

theorem Ends.after (h : Ends told items w) (hf : w.finished = false) {c : WatchChannel.Outcome}
    (hc : w.channel.turn.Follows t c) :
    Ends (told ++ c.yields) (items ++ (w.after c).yields) (w.after c).state := by
  rcases c with ch | ⟨e | _ | s | _ | _, ch⟩
  case again =>
    exact h.pass hf hf rfl (by simp) (by simp [ChildWatch.after]) (by simp [ChildWatch.after])
  case yield.error =>
    exact h.pass hf hf rfl (by simp) (by simp [ChildWatch.after]) (by simp [ChildWatch.after])
  case yield.ok.some.unknown =>
    exact h.pass hf hf rfl (by simp) (by simp [ChildWatch.after]) (by simp [ChildWatch.after])
  case yield.ok.some.absent => exact h.finish rfl rfl rfl (by simp) (.inl (by simp))
  case yield.ok.none =>
    have hover : ch.state = .exhausted ∨ ch.state = .failed := by
      cases WatchChannel.step_of_follows hc with
      | ended h => exact h
    exact h.finish rfl rfl rfl (by simp) (.inr hover)
  case yield.ok.some.snapshot =>
    change Ends _ _ (ChildWatch.examine _ s).state
    rw [state_examine]
    exact (h.move hf ch).examine hf s

theorem Fits.start (origin : WatchChannel) : Fits origin [] [] { channel := origin } where
  run := .refl origin
  asked := rfl
  found := ⟨rfl, rfl, List.not_mem_nil⟩
  ends := {
    failures := by simp [yields]
    early := by simp [yields, snapshots]
    finished := by simp [yields, snapshots]
    cause := nofun
    ended := nofun }

/-- Every turn of a discovery is a turn of its watch, or tells the end. -/
theorem Fits.step {origin : WatchChannel} {told : Tracker.Course}
    {happened : List (Happening (Except Failure (Option (List ChildReference))))}
    (h : Fits origin told happened w) (ht : w.turn.Follows t o) :
    ∃ told', Fits origin told' (happened ++ o.happenings t) o.state := by
  cases hf : w.finished with
  | false =>
    obtain ⟨c, hc, rfl⟩ := (follows_turn_iff hf).mp ht
    refine ⟨told ++ c.happenings t, ?_, ?_, ?_, ?_⟩
    · rw [channel_after]
      exact h.run.then_turn hc
    · rw [exchanges_append, exchanges_append, h.asked, exchanges_happenings, exchanges_happenings]
    · rw [yields_append, yields_append, yields_happenings, yields_happenings]
      exact h.found.after c
    · rw [yields_append, yields_append, yields_happenings, yields_happenings]
      exact h.ends.after hf hc
  | true =>
    rw [turn_finished hf, Dialogue.follows_done_iff] at ht
    obtain ⟨rfl, rfl⟩ := ht
    refine ⟨told, h.run, ?_, ?_, ?_⟩
    · rw [exchanges_append, exchanges_happenings, List.append_nil, h.asked]
    · rw [yields_append, yields_happenings]
      have hfound : Found (yields told ++ []) (yields happened ++ [.ok none]) w.seen :=
        h.found.pass rfl rfl
      rwa [List.append_nil] at hfound
    · rw [yields_append, yields_happenings]
      exact { h.ends with
        failures := fun e => by simp [h.ends.failures]
        ended := fun _ => hf }

theorem fits_of_run {origin : WatchChannel}
    {happened : List (Happening (Except Failure (Option (List ChildReference))))}
    (run : Run turn { channel := origin } happened w) : ∃ told, Fits origin told happened w := by
  have hfits := run.keeps (P := fun happened w => ∃ told, Fits origin told happened w) ?_
    ⟨[], .start origin⟩
  · rwa [List.nil_append] at hfits
  · rintro before w t o ⟨told, h⟩ ht
    exact h.step ht

/-- The first condition of the resource is true or false. -/
def Terminal (s : Snapshot) : Prop :=
  ∃ c, s.conditions.head? = some c ∧ (c.status = .true ∨ c.status = .false)

theorem terminal_iff (s : Snapshot) : s.isTerminal = true ↔ Terminal s := by
  have hstatus (status : ConditionStatus) :
      status.isTerminal = true ↔ status = .true ∨ status = .false := by
    cases status <;> simp [ConditionStatus.isTerminal]
  simp only [Snapshot.isTerminal, Snapshot.condition?, Option.any_eq_true, hstatus, Terminal]

/-- What a watch has told ends the discovery, or it is at its own end. -/
def Over (told : Tracker.Course) (ch : WatchChannel) : Prop :=
  (∃ s ∈ snapshots (yields told), Terminal s) ∨ .ok (some .absent) ∈ yields told ∨
    ch.state = .exhausted ∨ ∃ e, .error e ∈ yields told

theorem Fits.over_iff {t : Tracker} {told : Tracker.Course}
    {happened : List (Happening (Except Failure (Option (List ChildReference))))}
    (h : Fits t.watch told happened w) : Over told w.channel ↔
      w.finished = true ∨ w.channel.state = .exhausted ∨ w.channel.state = .failed := by
  rw [Over, ← WatchChannel.failed_iff_told h.run]
  simp only [← terminal_iff]
  constructor
  · rintro (hterminal | habsent | hover)
    · exact .inl (h.ends.finished (.inl hterminal))
    · exact .inl (h.ends.finished (.inr habsent))
    · exact .inr hover
  · rintro (hfinished | hover)
    · exact h.ends.cause hfinished
    · exact .inr (.inr hover)

/-- Every task run that the watch of a pipeline run shows is found once, when it is shown first. The
snapshots that the watch tells are looked at up to the first in an end state; then, as after
an absence, at the end of the watch and after a failure, the end is told for ever and nothing is
asked. That nothing is known for the moment changes nothing. -/
theorem task_runs_found_once (p : PipelineRun)
    (happened : List (Happening (Except Failure (Option (List ChildReference))))) (w : ChildWatch)
    (run : Run turn p.watchNewChildren happened w) :
    ∃ told, Run WatchChannel.turn p.tracker.watch told w.channel ∧
      exchanges happened = exchanges told ∧
      (batches (yields happened)).flatten = firstByName (shown (snapshots (yields told))) ∧
      ((batches (yields happened)).flatten.map (·.name)).Nodup ∧
      [] ∉ batches (yields happened) ∧
      (∀ s ∈ (snapshots (yields told)).dropLast, ¬ Terminal s) ∧
      (∀ e, .error e ∈ yields happened ↔ .error e ∈ yields told) ∧
      (.ok none ∈ yields happened → Over told w.channel) ∧
      (Over told w.channel → Silent turn w) ∧
      ∀ t ch, ¬ Over told w.channel →
        w.channel.turn.Follows t (.yield (.ok (some .unknown)) ch) →
          w.turn.Follows t (.again { w with channel := ch }) := by
  obtain ⟨told, h⟩ := fits_of_run run
  have hover := h.over_iff
  refine ⟨told, h.run, h.asked, h.found.found, ?_, h.found.nonempty, ?_, h.ends.failures, ?_, ?_, ?_⟩
  · rw [h.found.found]
    exact nodup_firstByName _
  · intro s hs hterminal
    have hearly := h.ends.early s hs
    rw [(terminal_iff s).mpr hterminal] at hearly
    cases hearly
  · exact fun hnone => hover.mpr (.inl (h.ends.ended hnone))
  · exact fun hend => silent_of_over (hover.mp hend)
  · intro t ch hopen ht
    have hf : w.finished = false := by
      cases hfinished : w.finished with
      | false => rfl
      | true => exact absurd (hover.mpr (.inl hfinished)) hopen
    exact (follows_turn_iff hf).mpr ⟨_, ht, rfl⟩

/-! A pipeline run that has ended lists a task run twice. -/

def twice : PipelineRun := ⟨{ apiUrl := "https://api.example.test", «namespace» := "ns" }, "run"⟩

def twiceDocument : Response := ⟨200,
  "\x7b\"status\":\x7b\"conditions\":[\x7b\"status\":\"True\"\x7d],\"childReferences\":[" ++
    "\x7b\"kind\":\"TaskRun\",\"name\":\"a\"\x7d,\x7b\"kind\":\"TaskRun\",\"name\":\"b\"\x7d," ++
    "\x7b\"kind\":\"TaskRun\",\"name\":\"a\"\x7d]\x7d\x7d"⟩

def twiceNotice : String := "\x7b\"type\":\"ADDED\",\"object\":\x7b\x7d\x7d"

def twiceSnapshot : Snapshot where
  kind := "PipelineRun"
  name := ""
  conditions := [⟨.true, "", "", none⟩]
  children := [⟨some "TaskRun", "a", none⟩, ⟨some "TaskRun", "b", none⟩, ⟨some "TaskRun", "a", none⟩]
  podReference := none
  steps := []
  results := []
  labels := []
  annotations := []
  raw := .object [("status", .object [
    ("childReferences", .array [
      .object [("kind", .text "TaskRun"), ("name", .text "a")],
      .object [("kind", .text "TaskRun"), ("name", .text "b")],
      .object [("kind", .text "TaskRun"), ("name", .text "a")]]),
    ("conditions", .array [.object [("status", .text "True")]])])]

def twiceWatch : WatchChannel :=
  { twice.tracker.watch.tried with stream := some 0, state := .streaming }

def twiceHappened : List (Happening (Except Failure (Option (List ChildReference)))) :=
  [.exchanged ⟨.openStream twice.tracker.watch.request, .ok 0⟩,
    .exchanged ⟨.readLine 0, .ok (some twiceNotice)⟩,
    .exchanged (twice.tracker.lookedUp (.ok twiceDocument)),
    .yielded (.ok (some [⟨some "TaskRun", "a", none⟩, ⟨some "TaskRun", "b", none⟩])),
    .yielded (.ok none)]

theorem run_twice : ∃ w, Run turn twice.watchNewChildren twiceHappened w := by
  have hconnected : WatchChannel.Step twice.tracker.watch
      [⟨.openStream twice.tracker.watch.request, .ok 0⟩] (.again twiceWatch) := .connected 0 rfl
  have hevent : WatchChannel.Step twiceWatch
      [⟨.readLine 0, .ok (some twiceNotice)⟩, twice.tracker.lookedUp (.ok twiceDocument)]
      (.yield (.ok (some (.snapshot twiceSnapshot))) twiceWatch) :=
    .event 0 twiceNotice (.ok twiceDocument) _ ⟨rfl, rfl⟩ (by decide +kernel) (by decide +kernel)
  have hfirst := (follows_turn_iff (w := twice.watchNewChildren) rfl).mpr
    ⟨_, hconnected.follows, rfl⟩
  have hsecond := (follows_turn_iff (w := { channel := twiceWatch }) rfl).mpr
    ⟨_, hevent.follows, rfl⟩
  have hthird : (examined { channel := twiceWatch } twiceSnapshot).turn.Follows []
      (.yield (.ok none) (examined { channel := twiceWatch } twiceSnapshot)) := by
    rw [turn_finished rfl]
    exact .done _
  exact ⟨_, .again hfirst (.yield hsecond (.yield hthird (.refl _)))⟩

/-- Each task run is found once, and the discovery is at its end. -/
theorem task_runs_found_once_twice : ∃ w, Run turn twice.watchNewChildren twiceHappened w ∧
    ((batches (yields twiceHappened)).flatten.map (·.name)).Nodup ∧ Silent turn w := by
  obtain ⟨w, hrun⟩ := run_twice
  obtain ⟨told, -, -, -, hnodup, -, -, -, hover, hsilent, -⟩ :=
    task_runs_found_once twice twiceHappened w hrun
  exact ⟨w, hrun, hnodup, hsilent (hover (mem_yields.mpr (by simp [twiceHappened])))⟩

end PipelineObserver.ChildWatch
