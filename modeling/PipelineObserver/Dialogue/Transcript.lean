import PipelineObserver.Dialogue.Basic
/-!
Transcripts: what was asked and answered in the course of a dialogue, whatever the surroundings
are. The transcript of two dialogues in a row is that of the first and then that of the second:
`follows_bind_iff`. A run of an activity is made of the transcripts of its turns and of what it
yields in between, and runs can be put together: `Run.trans`.
-/
namespace PipelineObserver

/-- A question and its answer. -/
structure Exchange where
  question : Question
  answer : question.Answer

namespace Dialogue

variable {α β : Type}

/-- A dialogue takes the course of a transcript and comes to a result. -/
inductive Follows : Dialogue α → List Exchange → α → Prop
  | done (a : α) : Follows (.done a) [] a
  | ask (q : Question) (next : q.Answer → Dialogue α) (answer : q.Answer)
      (rest : List Exchange) (a : α) :
      Follows (next answer) rest a → Follows (.ask q next) (⟨q, answer⟩ :: rest) a

theorem Follows.bind {d : Dialogue α} {f : α → Dialogue β} {t u : List Exchange} {a : α} {b : β}
    (first : d.Follows t a) (second : (f a).Follows u b) : (d.bind f).Follows (t ++ u) b := by
  induction first with
  | done a => exact second
  | ask q next answer rest a _ ih => exact .ask q _ answer _ b (ih second)

theorem Follows.of_bind {d : Dialogue α} {f : α → Dialogue β} {t : List Exchange} {b : β}
    (h : (d.bind f).Follows t b) : ∃ u v a, t = u ++ v ∧ d.Follows u a ∧ (f a).Follows v b := by
  induction d generalizing t with
  | done a => exact ⟨[], t, a, rfl, .done a, h⟩
  | ask q next ih =>
    cases h with
    | ask _ _ answer rest _ h =>
      obtain ⟨u, v, a, rfl, hu, hv⟩ := ih answer h
      exact ⟨⟨q, answer⟩ :: u, v, a, rfl, .ask q next answer u a hu, hv⟩

/-- The transcript of two dialogues in a row is that of the first and then that of the second. -/
theorem follows_bind_iff {d : Dialogue α} {f : α → Dialogue β} {t : List Exchange} {b : β} :
    (d.bind f).Follows t b ↔ ∃ u v a, t = u ++ v ∧ d.Follows u a ∧ (f a).Follows v b := by
  constructor
  · exact Follows.of_bind
  · rintro ⟨u, v, a, rfl, hu, hv⟩
    exact hu.bind hv

@[simp] theorem follows_done_iff {a b : α} {t : List Exchange} :
    (done a).Follows t b ↔ t = [] ∧ b = a := by
  constructor
  · rintro ⟨⟩
    exact ⟨rfl, rfl⟩
  · rintro ⟨rfl, rfl⟩
    exact .done b

@[simp] theorem follows_ask_iff {q : Question} {next : q.Answer → Dialogue α} {a : α}
    {t : List Exchange} : (ask q next).Follows t a ↔
      ∃ answer rest, t = ⟨q, answer⟩ :: rest ∧ (next answer).Follows rest a := by
  constructor
  · rintro ⟨⟩
    exact ⟨_, _, rfl, ‹_›⟩
  · rintro ⟨answer, rest, rfl, h⟩
    exact .ask q next answer rest a h

end Dialogue

/-- What happens in a run. -/
inductive Happening (α : Type) where
  | exchanged (e : Exchange)
  | yielded (value : α)

/-- A run of an activity from one state to another, with all that happens in it. -/
inductive Run {σ α : Type} (turn : σ → Dialogue (Turn σ α)) : σ → List (Happening α) → σ → Prop
  | refl (s : σ) : Run turn s [] s
  | again {s s' s'' : σ} {t : List Exchange} {rest : List (Happening α)} :
      (turn s).Follows t (.again s') → Run turn s' rest s'' →
      Run turn s (t.map .exchanged ++ rest) s''
  | yield {s s' s'' : σ} {t : List Exchange} {a : α} {rest : List (Happening α)} :
      (turn s).Follows t (.yield a s') → Run turn s' rest s'' →
      Run turn s (t.map .exchanged ++ .yielded a :: rest) s''

theorem Run.trans {σ α : Type} {turn : σ → Dialogue (Turn σ α)} {s s' s'' : σ}
    {first second : List (Happening α)} (h : Run turn s first s') (h' : Run turn s' second s'') :
    Run turn s (first ++ second) s'' := by
  induction h with
  | refl s => exact h'
  | again ht _ ih => simpa using Run.again ht (ih h')
  | yield ht _ ih => simpa using Run.yield ht (ih h')

end PipelineObserver
