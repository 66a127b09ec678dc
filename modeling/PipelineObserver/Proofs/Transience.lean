import PipelineObserver.Logs.Lines
import PipelineObserver.Proofs.Runs
import PipelineObserver.Proofs.Watch.Items
import PipelineObserver.Tracker.Children
/-!
Failures that pass: no activity yields one. Each turn is followed through the dialogue that it is
made of, with one rule for each way in which dialogues are put together.
-/
namespace PipelineObserver

variable {σ α β : Type}

namespace Dialogue

/-- The result satisfies a predicate, whatever is answered. -/
def Always (d : Dialogue α) (P : α → Prop) : Prop := ∀ t a, d.Follows t a → P a

variable {P : α → Prop} {Q : β → Prop}

theorem Always.done {a : α} (h : P a) : (Dialogue.done a).Always P := by
  intro t b hb
  obtain ⟨-, rfl⟩ := follows_done_iff.mp hb
  exact h

theorem Always.ask {q : Question} {next : q.Answer → Dialogue α}
    (h : ∀ answer, (next answer).Always P) : (Dialogue.ask q next).Always P := by
  intro t a ha
  obtain ⟨answer, rest, -, hrest⟩ := follows_ask_iff.mp ha
  exact h answer rest a hrest

theorem Always.bind {d : Dialogue α} {f : α → Dialogue β} (h : d.Always P)
    (hf : ∀ a, P a → (f a).Always Q) : (d >>= f).Always Q := by
  intro t b hb
  rw [bind_eq] at hb
  obtain ⟨u, v, a, -, ha, hv⟩ := follows_bind_iff.mp hb
  exact hf a (h u a ha) v b hv

theorem Always.then_question {q : Question} {f : q.Answer → Dialogue β}
    (h : ∀ answer, (f answer).Always Q) : (question q >>= f).Always Q := .ask h

end Dialogue

/-- A failure that is yielded is one that lasts. -/
def Turn.Firm : Turn σ (Except Failure β) → Prop
  | .yield (.error e) _ => e.isTransient = false
  | _ => True

theorem Turn.firm_unless_transient (e : Failure) (s s' : σ) : Turn.Firm
    (if e.isTransient then .again s else .yield (.error e) s' : Turn σ (Except Failure β)) := by
  cases h : e.isTransient with
  | true => trivial
  | false => exact h

/-- A run yields no failure that passes, if none of its turns does. -/
theorem Run.lasting {turn : σ → Dialogue (Turn σ (Except Failure β))} {s s' : σ}
    {happened : List (Happening (Except Failure β))} (firm : ∀ s, (turn s).Always Turn.Firm)
    (run : Run turn s happened s') {e : Failure} (h : .yielded (.error e) ∈ happened) :
    e.isTransient = false := by
  obtain ⟨before, after, rfl⟩ := List.append_of_mem h
  obtain ⟨first, m, t, m', -, -, ht, -⟩ := run.turn_of_yielded
  exact firm m t _ ht

/-! ### The activities -/

theorem WatchChannel.turn_firm (ch : WatchChannel) : ch.turn.Always Turn.Firm := by
  rintro t (ch' | ⟨e | item, ch'⟩) h
  · trivial
  · exact (step_of_follows h).failure.1
  · trivial

theorem StartWait.examine_firm (w : StartWait) (s : Snapshot) : (w.examine s).Firm := by
  unfold examine
  split
  · trivial
  · trivial

theorem StartWait.rechecked_firm (w : StartWait) (found : Except Failure (Option Snapshot)) :
    (w.rechecked found).Firm := by
  rcases found with e | _ | s
  · exact Turn.firm_unless_transient e w w
  · trivial
  · exact w.examine_firm s

theorem StartWait.turn_firm (w : StartWait) : w.turn.Always Turn.Firm := by
  refine Dialogue.Always.bind w.channel.turn_firm ?_
  -- Where the watch leaves a doubt, the resource is looked up once more.
  have hrecheck (ch : WatchChannel) : Dialogue.Always
      (ch.target.snapshot.run >>= fun found => return rechecked ⟨ch⟩ found) Turn.Firm := by
    rw [Tracker.snapshot_run]
    exact .ask fun answer => .done (rechecked_firm _ _)
  rintro (ch | ⟨e | _ | s | _ | _, ch⟩) h
  · exact .done trivial
  · exact .done h
  · exact .done trivial
  · exact .done (examine_firm _ s)
  · exact hrecheck ch
  · exact hrecheck ch

theorem ChildWatch.examine_firm (w : ChildWatch) (s : Snapshot) : (w.examine s).Firm := by
  unfold examine
  dsimp only
  split
  · trivial
  · trivial

theorem ChildWatch.turn_firm (w : ChildWatch) : w.turn.Always Turn.Firm := by
  unfold turn
  split
  · exact .done trivial
  · refine Dialogue.Always.bind w.channel.turn_firm ?_
    rintro (ch | ⟨e | _ | s | _ | _, ch⟩) h
    · exact .done trivial
    · exact .done h
    · exact .done trivial
    · exact .done (examine_firm _ s)
    · exact .done trivial
    · exact .done trivial

namespace LogLines

variable (l : LogLines)

theorem interrupted_firm (c : LogCursor) (e : Failure) (time : Nat) :
    (l.interrupted c e time).Firm := Turn.firm_unless_transient e (l.disconnected c time) l.ended

theorem awaitTaskRun_firm (w : StartWait) : (l.awaitTaskRun w).Always Turn.Firm := by
  refine Dialogue.Always.bind w.turn_firm ?_
  rintro (w | ⟨e | _ | s, w⟩) h
  · exact .done trivial
  · exact .done h
  · exact .done trivial
  · dsimp only
    split
    · exact .done trivial
    · exact .done trivial

theorem awaitPod_firm (w : StartWait) : (l.awaitPod w).Always Turn.Firm := by
  refine Dialogue.Always.bind w.turn_firm ?_
  rintro (w | ⟨e | _ | s, w⟩) h
  · exact .done trivial
  · exact .done h
  · exact .done trivial
  · exact .done trivial

theorem openStream_firm (pod : String) (c : LogCursor) :
    (l.openStream pod c).Always Turn.Firm := by
  refine .then_question fun time => .then_question fun answer => ?_
  cases answer with
  | ok stream => exact .done trivial
  | error e => exact .then_question fun time => .done (l.interrupted_firm _ e time)

theorem readLine_firm (c : LogCursor) (stream : StreamId) :
    (l.readLine c stream).Always Turn.Firm := by
  refine .then_question fun answer => ?_
  rcases answer with e | _ | line
  · exact .then_question fun time => .done (l.interrupted_firm c e time)
  · exact .then_question fun time => .done trivial
  · exact .then_question fun time => .done trivial

theorem read_firm (pod : String) : (l.read pod).Always Turn.Firm := by
  unfold read
  split
  · split
    · exact l.readLine_firm _ _
    · exact l.openStream_firm pod _
  · exact .done trivial
  · exact .then_question fun time => .done trivial

theorem turn_firm : l.turn.Always Turn.Firm := by
  unfold turn
  split
  · exact .done trivial
  · split
    · exact l.awaitTaskRun_firm _
    · exact l.awaitPod_firm _
    · exact l.read_firm _

end LogLines

end PipelineObserver
