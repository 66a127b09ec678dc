import PipelineObserver.Proofs.Aggregate.Continuity
/-!
The visits of a pass. The rota can be kept through every step, failures included, and so through
every course: `Rota.Fits.course`.
-/
namespace PipelineObserver.InterleavedLogs.Rota.Fits

variable {rota : Rota} {config : Config} {waiting : List ChildBatch} {s : InterleavedLogs}

/-- The stream that is left first is the next one to be asked. -/
theorem visits (h : rota.Fits config waiting s) (rotation : s.rotation ≠ 0)
    (pulled : s.pulled = none) {stream : TaskStream} {rest : List TaskStream}
    (hactive : s.active = stream :: rest) : ∃ i child,
      (rota.visit i child).Fits config waiting { s with
        active := rest
        rotation := s.rotation - 1
        pulled := some stream } ∧ rota.GoesOn [] (rota.visit i child) := by
  obtain ⟨left, hleft⟩ := h.inOrder
  have hlength := h.left
  obtain ⟨i, left, rfl⟩ : ∃ i left', left = i :: left' := by
    cases left with
    | nil =>
      rw [← hleft, List.append_nil, List.length_map] at hlength
      omega
    | cons i left' => exact ⟨i, left', rfl⟩
  have hqueue : rota.queue = i :: (left ++ rota.current.kept ++
      List.range' rota.base (rota.started - rota.base)) := by
    rw [Rota.queue, Pass.drop_visits hleft]
    rfl
  have hboth := h.active
  rw [hactive, hqueue, List.map_cons, List.map_cons, List.cons.injEq] at hboth
  obtain ⟨hstream, hrest⟩ := hboth
  obtain ⟨x, hx, hst⟩ := Option.map_eq_some_iff.mp hstream.symm
  have hvisits : visitsOf (rota.visit i x.1).passes = visitsOf rota.passes ++ [⟨i, x.1, []⟩] :=
    (List.append_assoc ..).symm
  have hkept : (rota.visit i x.1).current.kept = rota.current.kept := by
    simp [Rota.visit, Pass.kept, Visit.keeps, LogLines.toldLines, yields]
  have hroster : (rota.visit i x.1).current.roster =
      (rota.visit i x.1).current.visits.map (·.stream) ++ left := by
    change rota.current.roster = _
    rw [← hleft, Rota.visit, List.map_append, List.append_assoc]
    rfl
  have hqueue' : (rota.visit i x.1).queue =
      left ++ rota.current.kept ++ List.range' rota.base (rota.started - rota.base) := by
    rw [Rota.queue, Pass.drop_visits hroster.symm, hkept]
    rfl
  have goesOn : rota.GoesOn [] (rota.visit i x.1) := by
    refine ⟨(List.append_nil _).symm, ⟨[], _, rfl, rfl, List.prefix_refl _⟩, ?_,
      fun past hpast _ => ?_⟩
    · rw [Rota.order, Rota.order, hvisits, hqueue, hqueue', List.map_append,
        List.append_assoc (List.map _ _)]
      exact List.prefix_refl _
    · rw [hvisits]
      exact hpast.trans (List.prefix_append ..)
  refine ⟨i, x.1, ?_, goesOn⟩
  constructor
  case configured => exact h.configured
  case settled => exact h.settled
  case sent => exact h.sent
  case unstarted => exact h.unstarted
  case within => exact h.within
  case active =>
    rw [hqueue']
    exact hrest
  case left =>
    change s.rotation - 1 + (rota.current.visits ++ [_]).length = _
    rw [List.length_append, List.length_singleton]
    change _ = rota.current.roster.length
    omega
  case underWay => exact fun _ => h.underWay (.inl rotation)
  case idle =>
    intro hidle
    cases hidle
  case asking =>
    intro st hst
    cases hst
    exact ⟨rota.current.visits, _, rfl, h.idle pulled, ⟨[], rfl⟩, hstream.symm⟩
  case inOrder => exact ⟨left, hroster.symm⟩
  case follows => exact h.follows
  case closed => exact h.closed
  case known =>
    rw [hvisits, List.forall_mem_append]
    refine ⟨h.known, fun v hv => ?_⟩
    rw [List.mem_singleton.mp hv]
    exact congrArg (Option.map (·.1)) hx
  case told =>
    obtain ⟨hcurrent, hearlier⟩ := List.forall_mem_cons.mp h.told
    refine List.forall_mem_cons.mpr ⟨?_, hearlier⟩
    rw [Pass.shown, Rota.visit, List.flatMap_append]
    exact hcurrent.trans (congrArg (· ++ _) (List.append_nil _).symm)
  case run =>
    intro j y hy
    rw [history_visit]
    exact h.run j y hy

section Asks

variable {before : List Visit} {v : Visit} {st : TaskStream} {news : LogLines.Course} {l : LogLines}
  {more : List Event}

theorem visitsOf_asks (asks : rota.Asks before v st) :
    visitsOf rota.passes = visitsOf rota.earlier ++ before ++ [v] := by
  rw [Rota.passes, visitsOf, asks.visits, List.append_assoc]

theorem visitsOf_tell : visitsOf (rota.tell before v news l more).passes =
    visitsOf rota.earlier ++ before ++ [v.extend news] := (List.append_assoc ..).symm

theorem queue_tell (asks : rota.Asks before v st) (settled : rota.started = rota.base) :
    (rota.tell before v news l more).queue = rota.queue ++
      if (LogLines.toldLines news).isEmpty then [] else [v.stream] := by
  have hlength : (before ++ [v.extend news]).length = rota.current.visits.length := by
    rw [asks.visits, List.length_append, List.length_append]
    rfl
  change (rota.current.roster.drop (before ++ [v.extend news]).length ++ Pass.kept _) ++
    List.range' rota.base (rota.started - rota.base) = _
  rw [hlength, Rota.queue, Pass.kept_eq rfl, Pass.kept_eq asks.visits, asks.isOpen.keeps,
    asks.isOpen.keeps_extend, settled, Nat.sub_self]
  cases (LogLines.toldLines news).isEmpty <;> simp

theorem history_tell (asks : rota.Asks before v st) (j : Nat) :
    (rota.tell before v news l more).history j =
      rota.history j ++ if j = v.stream then news else [] := by
  rw [Rota.history, Rota.history, visitsOf_asks asks, visitsOf_tell, List.filter_append,
    List.filter_append, List.flatMap_append, List.flatMap_append, List.append_assoc]
  by_cases hj : v.stream = j
  · simp [hj, Visit.extend]
  · simp [hj, Ne.symm hj]

theorem shown_tell (asks : rota.Asks before v st) (failures : rota.current.failures = []) :
    (rota.tell before v news l more).current.shown =
      rota.current.shown ++ news.flatMap (shown v.child.taskName) := by
  rw [Pass.shown, Pass.shown, Rota.tell, failures, asks.visits]
  simp only [List.map_nil, List.append_nil, List.flatMap_append, List.flatMap_singleton,
    Visit.extend_shown, List.append_assoc]

/-- The stream that is asked stands nowhere in the queue. -/
theorem not_mem_queue (h : rota.Fits config waiting s) (asks : rota.Asks before v st)
    (settled : rota.started = rota.base) : v.stream ∉ rota.queue := by
  obtain ⟨left, hleft⟩ := h.inOrder
  have hqueue : rota.queue = left ++ (before.filter (·.keeps)).map (·.stream) := by
    rw [Rota.queue, Pass.drop_visits hleft, Pass.kept_eq asks.visits, asks.isOpen.keeps, settled,
      Nat.sub_self]
    simp
  have hnodup := h.follows.nodup.1
  rw [← hleft, asks.visits, List.map_append, List.append_assoc, List.nodup_append] at hnodup
  obtain ⟨-, hrest, hapart⟩ := hnodup
  rw [hqueue, List.mem_append, not_or]
  refine ⟨(List.nodup_cons.mp hrest).1, fun hover => ?_⟩
  obtain ⟨x, hx, hstream⟩ := List.mem_map.mp hover
  exact hapart _ (List.mem_map_of_mem (List.mem_filter.mp hx).1) _ List.mem_cons_self hstream

theorem child_of_asks (h : rota.Fits config waiting s) (asks : rota.Asks before v st) :
    rota.streams[v.stream]? = some (v.child, st.lines) ∧ st.task = v.child.taskName := by
  have hmem : v ∈ visitsOf rota.passes := by
    rw [visitsOf_asks asks]
    exact List.mem_concat_self
  obtain ⟨⟨child, l⟩, hx, rfl⟩ := Option.map_eq_some_iff.mp asks.stream
  have hchild := h.known v hmem
  rw [hx] at hchild
  cases hchild
  exact ⟨hx, rfl⟩

theorem started_of_asks (h : rota.Fits config waiting s) (asks : rota.Asks before v st)
    (settled : rota.started = rota.base) : v.stream < rota.started := by
  rw [settled]
  refine h.follows.nodup.2 _ (h.inOrder.subset ?_)
  rw [asks.visits]
  exact List.mem_map_of_mem List.mem_concat_self

/-- Something happens in the visit that is made. -/
theorem tell (h : rota.Fits config waiting s) (asks : rota.Asks before v st)
    (settled : rota.started = rota.base ∧ rota.current.failures = [])
    {active : List TaskStream} {pulled : Option TaskStream}
    (hrun : Run LogLines.turn st.lines news l)
    (htold : InterleavedLogs.told more = news.flatMap (shown st.task))
    (hbatches : batches more = [])
    (hactive : active = s.active ++
      if (LogLines.toldLines news).isEmpty then [] else [{ st with lines := l }])
    (hpulled : pulled = none ∧ (v.extend news).IsOver ∨
      pulled = some { st with lines := l } ∧ (v.extend news).IsOpen) :
    (rota.tell before v news l more).Fits config waiting
      { s with active := active, pulled := pulled } := by
  obtain ⟨hbase, hfailures⟩ := settled
  obtain ⟨hy, htask⟩ := h.child_of_asks asks
  rw [htask] at htold hactive hpulled
  have hstarted := h.started_of_asks asks hbase
  have hlt : v.stream < rota.streams.length := (List.getElem?_eq_some_iff.mp hy).1
  have hother {i : Nat} (hi : i ≠ v.stream) :
      (rota.tell before v news l more).streams[i]? = rota.streams[i]? :=
    List.getElem?_set_ne (Ne.symm hi)
  have hself : (rota.tell before v news l more).streams[v.stream]? = some (v.child, l) :=
    List.getElem?_set_self hlt
  have hchildren : (rota.tell before v news l more).streams.map (·.1) = rota.streams.map (·.1) := by
    rw [Rota.tell, List.map_set]
    exact set_eq_self (by rw [List.getElem?_map, hy]; rfl)
  have hevents : eventsOf (rota.tell before v news l more).passes = eventsOf rota.passes ++ more :=
    (List.append_assoc ..).symm
  constructor
  case configured => exact h.configured
  case settled => exact h.settled
  case sent =>
    rw [hevents, batches_append, hbatches, List.append_nil]
    exact hchildren.trans h.sent
  case unstarted =>
    rw [Rota.tell, List.drop_set_of_lt hstarted]
    exact h.unstarted
  case within => exact ⟨h.within.1, by rw [Rota.tell, List.length_set]; exact h.within.2⟩
  case active =>
    have hold : rota.queue.map (rota.tell before v news l more).stream? =
        rota.queue.map rota.stream? := by
      refine List.map_congr_left fun i hi => ?_
      have hne : i ≠ v.stream := by
        rintro rfl
        exact h.not_mem_queue asks hbase hi
      rw [Rota.stream?, hother hne]
      rfl
    have hnew : (rota.tell before v news l more).stream? v.stream = some ⟨v.child.taskName, l⟩ := by
      rw [Rota.stream?, hself]
      rfl
    rw [hactive, queue_tell asks hbase, List.map_append, List.map_append, hold, h.active]
    split
    · rfl
    · rw [List.map_singleton, List.map_singleton, hnew]
  case left =>
    have hlength := h.left
    rw [asks.visits, List.length_append] at hlength
    rw [Rota.tell, List.length_append]
    exact hlength
  case underWay => exact fun _ => ⟨hbase, hfailures⟩
  case idle =>
    intro hidle
    have hover : (v.extend news).IsOver := by
      rcases hpulled with ⟨-, hover⟩ | ⟨hasks, -⟩
      · exact hover
      · cases hidle.symm.trans hasks
    exact List.forall_mem_append.mpr ⟨asks.closed, List.forall_mem_singleton.mpr hover⟩
  case asking =>
    intro st hst
    rcases hpulled with ⟨hidle, -⟩ | ⟨hasks, hopen⟩
    · cases hidle.symm.trans hst
    · cases hst.symm.trans hasks
      refine ⟨before, _, rfl, asks.closed, hopen, ?_⟩
      rw [Rota.stream?, Visit.extend_stream, hself]
      rfl
  case inOrder =>
    obtain ⟨left, hleft⟩ := h.inOrder
    refine ⟨left, ?_⟩
    change (before ++ [v.extend news]).map (·.stream) ++ left =
      rota.current.roster
    rw [← hleft, asks.visits, List.map_append, List.map_append]
    rfl
  case follows => exact h.follows
  case closed => exact h.closed
  case known =>
    intro w hw
    have hknown := h.known
    rw [visitsOf_asks asks, List.forall_mem_append, List.forall_mem_singleton] at hknown
    rw [← List.getElem?_map, hchildren, List.getElem?_map]
    rw [visitsOf_tell, List.mem_append, List.mem_singleton] at hw
    rcases hw with hw | rfl
    · exact hknown.1 w hw
    · exact hknown.2
  case told =>
    obtain ⟨hcurrent, hearlier⟩ := List.forall_mem_cons.mp h.told
    refine List.forall_mem_cons.mpr ⟨?_, hearlier⟩
    rw [shown_tell asks hfailures, ← hcurrent, ← htold]
    exact told_append ..
  case run =>
    intro i x hi
    by_cases hiv : i = v.stream
    · subst hiv
      cases hself.symm.trans hi
      rw [history_tell asks, if_pos rfl]
      exact (h.run v.stream _ hy).trans hrun
    · rw [hother hiv] at hi
      rw [history_tell asks, if_neg hiv, List.append_nil]
      exact h.run i x hi

theorem goesOn_tell (asks : rota.Asks before v st) (settled : rota.started = rota.base) :
    rota.GoesOn more (rota.tell before v news l more) where
  events := (List.append_assoc ..).symm
  passes := ⟨[], _, rfl, rfl, List.prefix_append ..⟩
  order := by
    have hvisits : (visitsOf (rota.tell before v news l more).passes).map (·.stream) =
        (visitsOf rota.passes).map (·.stream) := by
      simp only [visitsOf_tell, visitsOf_asks asks, List.map_append, List.map_singleton,
        Visit.extend_stream]
    rw [Rota.order, Rota.order, hvisits, queue_tell asks settled, ← List.append_assoc]
    exact List.prefix_append ..
  closed := by
    intro past hpast hover
    rw [visitsOf_asks asks, List.prefix_concat_iff] at hpast
    rcases hpast with rfl | hpast
    · -- The visit is not over, so it is none of those that are.
      exact absurd (hover v List.mem_concat_self) asks.isOpen.not_isOver
    · rw [visitsOf_tell]
      exact hpast.trans (List.prefix_append ..)

/-- A turn of the stream that is asked. -/
theorem pulls (h : rota.Fits config s.inbox s) (hst : s.pulled = some st) {t : List Exchange}
    {x : LogLines.Outcome} (hx : st.lines.turn.Follows t x) : ∃ before v, rota.Asks before v st ∧
      rota.started = rota.base ∧
      (rota.tell before v (x.happenings t) x.state (seen t (.turned (s.afterPull st x)))).Fits
        config (stateAfter (.turned (s.afterPull st x))).inbox
        (stateAfter (.turned (s.afterPull st x))) := by
  obtain ⟨before, v, asks⟩ := h.asking st hst
  have settled := h.underWay (.inr (by simp [hst]))
  have hrun : Run LogLines.turn st.lines (x.happenings t) x.state := by
    have hstep := Run.step hx (.refl _)
    rwa [List.append_nil] at hstep
  have hactive : (stateAfter (.turned (s.afterPull st x))).active = s.active ++
      if (LogLines.toldLines (x.happenings t)).isEmpty then []
      else [{ st with lines := x.state }] := by
    rw [LogLines.toldLines, yields_happenings]
    rcases x with l | ⟨e | _ | line, l⟩
    · exact (List.append_nil _).symm
    · exact (List.append_nil _).symm
    · exact (List.append_nil _).symm
    · rfl
  have hpulled : (stateAfter (.turned (s.afterPull st x))).pulled = none ∧
        (v.extend (x.happenings t)).IsOver ∨
      (stateAfter (.turned (s.afterPull st x))).pulled = some { st with lines := x.state } ∧
        (v.extend (x.happenings t)).IsOpen := by
    rcases x with l | ⟨e | _ | line, l⟩
    · exact .inr ⟨rfl, asks.isOpen.again t⟩
    · exact .inl ⟨rfl, asks.isOpen.yield t _⟩
    · exact .inl ⟨rfl, asks.isOpen.yield t _⟩
    · exact .inl ⟨rfl, asks.isOpen.yield t _⟩
  have htell := h.tell asks settled hrun (told_pulled s st t x) (batches_pulled s st t x) hactive
    hpulled
  refine ⟨before, v, asks, settled.1, ?_⟩
  rcases x with l | ⟨e | _ | line, l⟩ <;> exact htell

/-- The stream that is asked runs on, and nothing happens to any other. -/
theorem runsOn_tell (h : rota.Fits config waiting s) (asks : rota.Asks before v st)
    (hrun : Run LogLines.turn st.lines news l) : rota.RunsOn (rota.tell before v news l more) := by
  intro i x hx
  obtain ⟨hy, -⟩ := h.child_of_asks asks
  by_cases hi : i = v.stream
  · subst hi
    cases hy.symm.trans hx
    refine ⟨news, l, List.getElem?_set_self (List.getElem?_eq_some_iff.mp hy).1, ?_, hrun⟩
    rw [history_tell asks, if_pos rfl]
  · refine ⟨[], x.2, (List.getElem?_set_ne (Ne.symm hi)).trans hx, ?_, .refl _⟩
    rw [history_tell asks, if_neg hi]

theorem continues_pulls (h : rota.Fits config s.inbox s) (asks : rota.Asks before v st)
    (settled : rota.started = rota.base) {t : List Exchange} {x : LogLines.Outcome}
    (hx : st.lines.turn.Follows t x) :
    rota.Continues s.inbox (seen t (.turned (s.afterPull st x)))
      (rota.tell before v (x.happenings t) x.state (seen t (.turned (s.afterPull st x))))
      (stateAfter (.turned (s.afterPull st x))).inbox := by
  have hgoes : rota.GoesOn _ (rota.tell before v (x.happenings t) x.state
      (seen t (.turned (s.afterPull st x)))) := goesOn_tell asks settled
  refine ⟨hgoes, h.runsOn_tell asks (Run.then_turn (.refl _) hx), fun hold => ?_⟩
  rw [inbox_afterPull]
  exact hold.goesOn hgoes (batches_seen t _) rfl

end Asks

/-! ### Between two visits -/

/-- Unless a failure is met, streams join in and nothing else happens. -/
theorem continues_join (h : rota.Fits config waiting s) {s' : InterleavedLogs}
    (hs : s.received = (none, s')) (n : Nat) :
    rota.Continues s.inbox [] (rota.join n) s'.inbox where
  goesOn := goesOn_join h.within.1 n
  runsOn := .of_idle (List.prefix_refl _) fun _ => rfl
  settled := by
    intro settled
    obtain ⟨taken, hinbox, hfailures⟩ := received_splits hs
    rw [hinbox] at settled
    refine settled.receive (goesOn_join h.within.1 n) rfl ?_
    rw [hfailures]
    exact (List.append_nil _).symm

theorem continues_turnOver (h : rota.Fits config [] s) :
    rota.Continues waiting [] rota.turnOver waiting where
  goesOn := h.goesOn_turnOver
  runsOn := .of_idle (List.prefix_refl _) fun _ => history_turnOver _
  settled := fun settled => settled.goesOn h.goesOn_turnOver rfl (List.append_nil _)

theorem continues_visit {i : Nat} {child : ChildReference}
    (hgoes : rota.GoesOn [] (rota.visit i child)) :
    rota.Continues waiting [] (rota.visit i child) waiting where
  goesOn := hgoes
  runsOn := .of_idle (List.prefix_refl _) fun _ => history_visit _ _ _
  settled := fun settled => settled.goesOn hgoes rfl rfl

/-- A failure of the discovery is met. -/
theorem meets (h : rota.Fits config s.inbox s) (pulled : s.pulled = none) {e : Failure}
    {s' : InterleavedLogs} (hs : s.received = (some e, s')) : ∃ n,
      ((rota.join n).fail e).Fits config s'.inbox s' ∧
      rota.Continues s.inbox [.happened (.yielded (.error e))] ((rota.join n).fail e)
        s'.inbox := by
  obtain ⟨taken, hinbox, hfailures⟩ := received_splits hs
  obtain ⟨n, hn⟩ := h.received pulled
  obtain ⟨hpulled, hrotation⟩ := received_keeps s
  have rotation : s.rotation = 0 := by
    by_contra hne
    rw [InterleavedLogs.received, if_neg hne] at hs
    cases hs
  rw [hs] at hn hpulled hrotation
  have hgoes := (goesOn_join h.within.1 n).trans (goesOn_fail (rota.join n) e)
  refine ⟨n, hn.fails (hrotation.trans rotation) (hpulled.trans pulled) e, hgoes,
    .of_idle (List.prefix_refl _) fun _ => rfl, fun settled => ?_⟩
  rw [hinbox] at settled
  refine settled.receive hgoes rfl ?_
  rw [hfailures]
  exact (List.append_assoc ..).symm

theorem advances (h : rota.Fits config s.inbox s) (pulled : s.pulled = none) {o : Advance}
    (ho : Advances s o) : ∃ rota' : Rota,
      rota'.Fits config (stateAfter o).inbox (stateAfter o) ∧
      rota.Continues s.inbox (seen [] o) rota' (stateAfter o).inbox := by
  obtain ⟨n, hn⟩ := h.received pulled
  obtain ⟨hpulled, hrotation⟩ := received_keeps s
  cases ho with
  | fails hs =>
    obtain ⟨n, hmeets⟩ := h.meets pulled hs
    exact ⟨_, hmeets⟩
  | @pulls s' stream rest hs hactive =>
    have hjoin := h.continues_join hs n
    rw [hs] at hn hpulled hrotation
    by_cases rotation : s'.rotation = 0
    · -- The pass is over, and the next one begins.
      have hinbox := h.inbox_eq_nil hs (hrotation.symm.trans rotation)
      rw [hinbox] at hn
      have hnext := hn.turnOver rotation (hpulled.trans pulled)
      have hlength : s'.active.length ≠ 0 := by
        rw [hactive]
        exact Nat.succ_ne_zero _
      obtain ⟨i, child, hfits, hgoes⟩ := hnext.visits hlength (hpulled.trans pulled) hactive
      refine ⟨_, ?_, hjoin.trans (hn.continues_turnOver.trans (continues_visit hgoes))⟩
      rw [stateAfter, if_pos rotation]
      exact hinbox ▸ hfits
    · obtain ⟨i, child, hfits, hgoes⟩ := hn.visits rotation (hpulled.trans pulled) hactive
      refine ⟨_, ?_, hjoin.trans (continues_visit hgoes)⟩
      rw [stateAfter, if_neg rotation]
      exact hfits
  | @waits s' hs _ _ =>
    have hjoin := h.continues_join hs n
    rw [hs] at hn
    exact ⟨_, hn, hjoin⟩
  | @ends s' hs _ _ =>
    have hjoin := h.continues_join hs n
    rw [hs] at hn
    have hends : ((rota.join n).note [Event.ending]).Fits config s'.inbox s' := hn.note rfl rfl
    exact ⟨_, hends, hjoin.trans (.note _ _ rfl)⟩

/-! ### Any number of steps -/

/-- The rota can be kept through every step. -/
theorem step (h : rota.Fits config s.inbox s) {more : List Event} {s' : InterleavedLogs}
    (hs : Step s more s') : ∃ rota' : Rota,
      rota'.Fits config s'.inbox s' ∧ rota.Continues s.inbox more rota' s'.inbox := by
  cases hs with
  | send batch here => exact ⟨_, h.send here batch, .send _ _ config batch⟩
  | hangUp _ => exact ⟨_, h.hangUp, .note _ _ rfl⟩
  | turn ht =>
    cases hpulled : s.pulled with
    | none =>
      obtain ⟨rfl, rfl⟩ := (follows_turn_none hpulled).mp ht
      exact h.advances hpulled (advance_advances s)
    | some st =>
      obtain ⟨x, hx, rfl⟩ := (follows_turn_pulled hpulled).mp ht
      obtain ⟨before, v, asks, settled, hfits⟩ := h.pulls hpulled hx
      exact ⟨_, hfits, h.continues_pulls asks settled hx⟩

/-- The rota can be kept through every course, and all that it keeps account of. -/
theorem course_continues (h : rota.Fits config s.inbox s) {more : List Event}
    {s' : InterleavedLogs} (course : Course s more s') : ∃ rota' : Rota,
      rota'.Fits config s'.inbox s' ∧ rota.Continues s.inbox more rota' s'.inbox := by
  induction course with
  | start => exact ⟨rota, h, .refl rota s.inbox⟩
  | step _ here ih =>
    obtain ⟨rota', hfits, hcontinues⟩ := ih
    obtain ⟨rota'', hfits', hcontinues'⟩ := hfits.step here
    exact ⟨rota'', hfits', hcontinues.trans hcontinues'⟩

/-- The rota can be kept through every course. -/
theorem course (h : rota.Fits config s.inbox s) {more : List Event} {s' : InterleavedLogs}
    (course : Course s more s') : ∃ rota' : Rota,
      rota'.Fits config s'.inbox s' ∧ rota.GoesOn more rota' := by
  obtain ⟨rota', hfits, hcontinues⟩ := h.course_continues course
  exact ⟨rota', hfits, hcontinues.goesOn⟩

end PipelineObserver.InterleavedLogs.Rota.Fits
