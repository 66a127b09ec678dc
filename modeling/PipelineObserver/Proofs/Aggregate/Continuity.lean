import PipelineObserver.Proofs.Aggregate.Rota
/-!
What is kept while a rota goes on. Each stream runs on from where it was, `Rota.RunsOn`, and each
failure of the discovery is met once, `Rota.Settled`.
-/
namespace PipelineObserver.InterleavedLogs

/-- The failures among some answers. -/
def failures {α : Type} (answers : List (Except Failure α)) : List Failure :=
  answers.filterMap fun
    | .error e => some e
    | .ok _ => none

theorem failures_append {α : Type} (answers more : List (Except Failure α)) :
    failures (answers ++ more) = failures answers ++ failures more := List.filterMap_append

/-- The failures of the discovery that were met in some passes. -/
def failuresOf : List Pass → List Failure
  | [] => []
  | r :: earlier => failuresOf earlier ++ r.failures

variable {s s' : InterleavedLogs}

/-- Batches are received up to the first failure, which is given back; the others are left. -/
theorem receive_splits (s : InterleavedLogs) (waiting : List ChildBatch) : ∃ taken,
    waiting = taken ++ (s.receive waiting).2.inbox ∧
      failures taken = (s.receive waiting).1.toList := by
  induction waiting generalizing s with
  | nil => exact ⟨[], rfl, rfl⟩
  | cons batch waiting ih =>
    cases batch with
    | error e => exact ⟨[.error e], rfl, rfl⟩
    | ok found =>
      obtain ⟨taken, hwaiting, hfailures⟩ := ih (s.start found)
      exact ⟨.ok found :: taken, congrArg (.ok found :: ·) hwaiting, hfailures⟩

theorem received_splits {failure : Option Failure} (h : s.received = (failure, s')) :
    ∃ taken, s.inbox = taken ++ s'.inbox ∧ failures taken = failure.toList := by
  unfold received receiveAll at h
  split at h
  · split at h
    · obtain ⟨taken, hinbox, hfailures⟩ := receive_splits s s.inbox
      rw [h] at hinbox hfailures
      exact ⟨taken, hinbox, hfailures⟩
    · cases h
      exact ⟨[], rfl, rfl⟩
  · cases h
    exact ⟨[], rfl, rfl⟩

theorem batches_seen (t : List Exchange) (o : Advance) : batches (seen t o) = [] := by
  rcases o with (s | ⟨a, s⟩) | s
  · exact batches_asked t
  · rw [seen, batches_append, batches_asked]
    rfl
  · exact batches_asked t

/-- While a stream is asked, nothing is received. -/
theorem inbox_afterPull (s : InterleavedLogs) (st : TaskStream) (x : LogLines.Outcome) :
    (stateAfter (.turned (s.afterPull st x))).inbox = s.inbox := by
  rcases x with l | ⟨e | _ | line, l⟩ <;> rfl

namespace Rota

variable {rota rota' rota'' : Rota} {waiting waiting' waiting'' : List ChildBatch}
  {more rest : List Event}

/-! ### The streams -/

/-- Each stream runs on from where it was. -/
def RunsOn (rota rota' : Rota) : Prop :=
  ∀ i x, rota.streams[i]? = some x → ∃ news l, rota'.streams[i]? = some (x.1, l) ∧
    rota'.history i = rota.history i ++ news ∧ Run LogLines.turn x.2 news l

namespace RunsOn

/-- Nothing happens to any stream; others may be sent. -/
theorem of_idle (streams : rota.streams <+: rota'.streams)
    (history : ∀ i, rota'.history i = rota.history i) : rota.RunsOn rota' := by
  intro i x hx
  obtain ⟨others, hothers⟩ := streams
  refine ⟨[], x.2, ?_, by rw [history, List.append_nil], .refl _⟩
  rw [← hothers, List.getElem?_append_left (List.getElem?_eq_some_iff.mp hx).1]
  exact hx

theorem trans (h : rota.RunsOn rota') (h' : rota'.RunsOn rota'') : rota.RunsOn rota'' := by
  intro i x hx
  obtain ⟨news, l, hl, hhistory, hrun⟩ := h i x hx
  obtain ⟨news', l', hl', hhistory', hrun'⟩ := h' i _ hl
  exact ⟨news ++ news', l', hl', by rw [hhistory', hhistory, List.append_assoc],
    hrun.trans hrun'⟩

end RunsOn

theorem history_turnOver (i : Nat) : rota.turnOver.history i = rota.history i := by
  have hvisits : visitsOf rota.turnOver.passes = visitsOf rota.passes := List.append_nil _
  rw [history, hvisits, history]

theorem history_visit (i j : Nat) (child : ChildReference) :
    (rota.visit i child).history j = rota.history j := by
  have hvisits : visitsOf (rota.visit i child).passes = visitsOf rota.passes ++ [⟨i, child, []⟩] :=
    (List.append_assoc ..).symm
  simp only [history, hvisits, List.filter_append, List.flatMap_append]
  by_cases hij : i = j <;> simp [hij]

/-! ### The failures of the discovery -/

/-- Of the batches that were sent some were received, whose failures were met. The others wait. -/
def Settled (rota : Rota) (waiting : List ChildBatch) : Prop :=
  ∃ received, batches (eventsOf rota.passes) = received ++ waiting ∧
    failures received = failuresOf rota.passes

/-- Some of the batches are received, and their failures are met. -/
theorem Settled.receive {taken left : List ChildBatch} (h : rota.Settled (taken ++ left))
    (hgoes : rota.GoesOn more rota') (silent : batches more = [])
    (met : failuresOf rota'.passes = failuresOf rota.passes ++ failures taken) :
    rota'.Settled left := by
  obtain ⟨received, hbatches, hfailures⟩ := h
  refine ⟨received ++ taken, ?_, ?_⟩
  · rw [hgoes.events, batches_append, silent, List.append_nil, hbatches, List.append_assoc]
  · rw [met, failures_append, hfailures]

theorem Settled.goesOn (h : rota.Settled waiting) (hgoes : rota.GoesOn more rota')
    (silent : batches more = []) (met : failuresOf rota'.passes = failuresOf rota.passes) :
    rota'.Settled waiting := by
  have h' : rota.Settled ([] ++ waiting) := h
  exact h'.receive hgoes silent (met.trans (List.append_nil _).symm)

/-! ### Both -/

/-- One rota comes from another one by some more events, through which everything is kept. -/
structure Continues (rota : Rota) (waiting : List ChildBatch) (more : List Event) (rota' : Rota)
    (waiting' : List ChildBatch) : Prop where
  goesOn : rota.GoesOn more rota'
  runsOn : rota.RunsOn rota'
  settled : rota.Settled waiting → rota'.Settled waiting'

namespace Continues

theorem refl (rota : Rota) (waiting : List ChildBatch) : rota.Continues waiting [] rota waiting where
  goesOn := .refl rota
  runsOn := .of_idle (List.prefix_refl _) fun _ => rfl
  settled := id

theorem trans (h : rota.Continues waiting more rota' waiting')
    (h' : rota'.Continues waiting' rest rota'' waiting'') :
    rota.Continues waiting (more ++ rest) rota'' waiting'' where
  goesOn := h.goesOn.trans h'.goesOn
  runsOn := h.runsOn.trans h'.runsOn
  settled := fun settled => h'.settled (h.settled settled)

variable (rota waiting)

theorem send (config : Config) (batch : ChildBatch) : rota.Continues waiting [.sent batch]
    (rota.send config batch) (waiting ++ [batch]) where
  goesOn := goesOn_send rota config batch
  runsOn := .of_idle (List.prefix_append ..) fun _ => rfl
  settled := by
    rintro ⟨received, hbatches, hfailures⟩
    refine ⟨received, ?_, hfailures⟩
    rw [(goesOn_send rota config batch).events, batches_append, hbatches, List.append_assoc]
    rfl

theorem note (silent : batches more = []) : rota.Continues waiting more (rota.note more) waiting where
  goesOn := goesOn_note rota more
  runsOn := .of_idle (List.prefix_refl _) fun _ => rfl
  settled := fun settled => settled.goesOn (goesOn_note rota more) silent rfl

end Continues

end Rota

end PipelineObserver.InterleavedLogs
