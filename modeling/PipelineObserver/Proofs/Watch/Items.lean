import PipelineObserver.Proofs.Runs
import PipelineObserver.Proofs.Watch.Channel
/-!
The snapshots that are fetched, and those that a watch tells: a watch tells each snapshot that it
fetches at once, and no other.
-/
namespace PipelineObserver

/-- The snapshots among what a watch yielded. -/
def snapshots (told : List (Except Failure (Option WatchItem))) : List Snapshot :=
  told.filterMap fun
    | .ok (some (.snapshot s)) => some s
    | _ => none

/-- The snapshot that an answer brings, if it brings one. -/
def Exchange.snapshot? (k : Kind) : Exchange → Option Snapshot
  | ⟨.send _, answer⟩ =>
    match answer.bind (Response.snapshot? k) with
    | .ok found => found
    | .error _ => none
  | _ => none

/-- The snapshots that were fetched, in their order. -/
def fetched (k : Kind) (asked : List Exchange) : List Snapshot :=
  asked.filterMap (Exchange.snapshot? k)

theorem snapshots_append (told more : List (Except Failure (Option WatchItem))) :
    snapshots (told ++ more) = snapshots told ++ snapshots more := List.filterMap_append

theorem fetched_append (k : Kind) (asked more : List Exchange) :
    fetched k (asked ++ more) = fetched k asked ++ fetched k more := List.filterMap_append

theorem fetched_singleton (k : Kind) (x : Exchange) :
    fetched k [x] = (x.snapshot? k).toList := by
  cases h : x.snapshot? k <;> simp [fetched, h]

/-- The failure that an exchange ended in, if it did. -/
def Exchange.failure? (k : Kind) : Exchange → Option Failure
  | ⟨.send _, answer⟩ =>
    match answer.bind (Response.snapshot? k) with
    | .ok _ => none
    | .error e => some e
  | ⟨.openStream _, .error e⟩ => some e
  | ⟨.readLine _, .error e⟩ => some e
  | _ => none

variable {k : Kind} {answer : Except Failure Response}

theorem Response.snapshot?_eq_none_iff (r : Response) :
    r.snapshot? k = .ok none ↔ r.status = 404 := by
  unfold Response.snapshot?
  by_cases h : r.status = 404
  · simp [h]
  · simp only [h, ↓reduceIte, iff_false]
    cases r.checked with
    | error e => exact nofun
    | ok r =>
      dsimp only [bind, Except.bind]
      split
      · exact nofun
      · split
        · exact nofun
        · exact nofun

theorem missing_of_lookedUp (h : answer.bind (Response.snapshot? k) = .ok none) :
    ∃ r, answer = .ok r ∧ r.status = 404 := by
  cases answer with
  | error e => cases h
  | ok r => exact ⟨r, rfl, r.snapshot?_eq_none_iff.mp h⟩

theorem snapshot?_of_parse? {status : Nat} {body : String} {doc : Json}
    (success : Response.isSuccess ⟨status, body⟩ = true) (h : Json.parse? body = some doc) :
    Response.snapshot? k ⟨status, body⟩ = (Snapshot.ofDocument? k doc).elim
      (.error (.unexpectedDocument k.name)) fun s => .ok (some s) := by
  have hrange : 200 ≤ status ∧ status < 300 := by simpa [Response.isSuccess] using success
  have hfound : status ≠ 404 := by omega
  have hchecked : Response.checked ⟨status, body⟩ = .ok ⟨status, body⟩ := by
    rw [Response.checked, if_pos success]
  rw [Response.snapshot?, if_neg hfound, hchecked]
  simp only [bind, Except.bind, h]
  cases Snapshot.ofDocument? k doc <;> rfl

theorem WatchItem.snapshot_of_ofAnswer {s : Snapshot}
    (h : WatchItem.ofAnswer k answer = .ok (.snapshot s)) :
    answer.bind (Response.snapshot? k) = .ok (some s) := by
  unfold WatchItem.ofAnswer at h
  rcases ha : answer.bind (Response.snapshot? k) with e | _ | r
  · simp only [ha] at h
    split at h <;> cases h
  · simp [ha] at h
  · simp only [ha] at h
    cases h
    rfl

theorem WatchItem.failed_of_ofAnswer {e : Failure} (h : WatchItem.ofAnswer k answer = .error e) :
    answer.bind (Response.snapshot? k) = .error e ∧ e.isTransient = false := by
  unfold WatchItem.ofAnswer at h
  rcases ha : answer.bind (Response.snapshot? k) with e' | _ | r
  · simp only [ha] at h
    split at h
    · cases h
    · cases h
      exact ⟨rfl, by simpa using ‹¬ e.isTransient = true›⟩
  · simp [ha] at h
  · simp [ha] at h

theorem WatchItem.snapshots_of_ofAnswer {item : WatchItem}
    (h : WatchItem.ofAnswer k answer = .ok item) (r : Request) :
    (Exchange.snapshot? k ⟨.send r, answer⟩).toList = snapshots [.ok (some item)] := by
  unfold WatchItem.ofAnswer at h
  rcases ha : answer.bind (Response.snapshot? k) with e | _ | s
  · simp only [ha] at h
    split at h
    · cases h
      simp [Exchange.snapshot?, ha, snapshots]
    · cases h
  · simp only [ha] at h
    cases h
    simp [Exchange.snapshot?, ha, snapshots]
  · simp only [ha] at h
    cases h
    simp [Exchange.snapshot?, ha, snapshots]

/-- What a watch fetches it tells at once. -/
theorem WatchChannel.Step.fetched {ch : WatchChannel} {t : List Exchange}
    {o : WatchChannel.Outcome} (hs : Step ch t o) :
    fetched ch.target.kind t = snapshots o.yields := by
  cases hs with
  | event id line answer item h announced found =>
    exact (fetched_singleton _ _).trans (WatchItem.snapshots_of_ofAnswer found _)
  | lookUpFailed id line answer e h announced failed =>
    have hnone : Exchange.snapshot? ch.target.kind (ch.target.lookedUp answer) = none := by
      simp [Exchange.snapshot?, Tracker.lookedUp, (WatchItem.failed_of_ofAnswer failed).1]
    exact (fetched_singleton _ _).trans (congrArg Option.toList hnone)
  | _ => rfl

/-- A snapshot that a watch tells is that of the last thing it asked. -/
theorem WatchChannel.Step.shown {ch ch' : WatchChannel} {t : List Exchange} {s : Snapshot}
    (hs : Step ch t (.yield (.ok (some (.snapshot s))) ch')) :
    ∃ id line answer, t = [⟨.readLine id, .ok (some line)⟩, ch.target.lookedUp answer] ∧
      answer.bind (Response.snapshot? ch.target.kind) = .ok (some s) := by
  cases hs with
  | event id line answer item h announced found =>
    exact ⟨id, line, answer, rfl, WatchItem.snapshot_of_ofAnswer found⟩

/-- A failure that a watch tells is that of the last thing it asked, and will last. -/
theorem WatchChannel.Step.failure {ch ch' : WatchChannel} {t : List Exchange} {e : Failure}
    (hs : Step ch t (.yield (.error e) ch')) :
    e.isTransient = false ∧ ∃ before x, t = before ++ [x] ∧ x.failure? ch.target.kind = some e := by
  cases hs with
  | givenUp e h hard limit => exact ⟨hard, [], _, rfl, rfl⟩
  | unreadable id e h hard => exact ⟨hard, [], _, rfl, rfl⟩
  | lookUpFailed id line answer e h announced failed =>
    obtain ⟨hanswer, hard⟩ := WatchItem.failed_of_ofAnswer failed
    refine ⟨hard, [_], _, rfl, ?_⟩
    simp [Exchange.failure?, Tracker.lookedUp, hanswer]

end PipelineObserver
