import PipelineObserver.Dialogue.Transcript
/-!
Surroundings that answer every question. A dialogue held in them comes to one result, and draining a
sequence in them comes to one list of items at most: `Drains.unique`. It takes the course of the
transcript of what they answer: `hold_of_answers`. A client comes to a result in all surroundings
whose answers allow no other: `Client.ComesTo.hold`.
-/
namespace PipelineObserver

/-- Surroundings in a state of their own, which may change with every question. -/
structure Surroundings (ω : Type) where
  answer : (q : Question) → ω → q.Answer × ω

namespace Surroundings

variable {ω α β σ : Type} (S : Surroundings ω)

/-- The result of a dialogue, and the state in which it leaves the surroundings. -/
def hold : Dialogue α → ω → α × ω
  | .done a, w => (a, w)
  | .ask q next, w => hold (next (S.answer q w).1) (S.answer q w).2

@[simp] theorem hold_done (a : α) (w : ω) : S.hold (.done a) w = (a, w) := rfl

@[simp] theorem hold_ask (q : Question) (next : q.Answer → Dialogue α) (w : ω) :
    S.hold (.ask q next) w = S.hold (next (S.answer q w).1) (S.answer q w).2 := rfl

theorem hold_bind (d : Dialogue α) (f : α → Dialogue β) (w : ω) :
    S.hold (d.bind f) w = S.hold (f (S.hold d w).1) (S.hold d w).2 := by
  induction d generalizing w with
  | done a => rfl
  | ask q next ih => exact ih (S.answer q w).1 (S.answer q w).2

/-- A client that comes to something goes on with it. -/
theorem hold_run_bind {x : Client α} {f : α → Client β} {w v : ω} {a : α}
    (h : S.hold x.run w = (.ok a, v)) : S.hold (x >>= f).run w = S.hold (f a).run v := by
  change S.hold (x.run.bind (ExceptT.bindCont f)) w = _
  rw [hold_bind, h]
  rfl

/-- A client that fails does not go on. -/
theorem hold_run_bind_failed {x : Client α} {f : α → Client β} {w v : ω} {e : Failure}
    (h : S.hold x.run w = (.error e, v)) : S.hold (x >>= f).run w = (.error e, v) := by
  change S.hold (x.run.bind (ExceptT.bindCont f)) w = _
  rw [hold_bind, h]
  rfl

/-- What the surroundings answer to some questions, and the state in which these leave them. -/
inductive Answers : List Exchange → ω → ω → Prop
  | nil (w : ω) : Answers [] w w
  | cons {q : Question} {answer : q.Answer} {t : List Exchange} {w w' v : ω}
      (here : S.answer q w = (answer, w')) (rest : Answers t w' v) : Answers (⟨q, answer⟩ :: t) w v

variable {S} in
theorem hold_of_answers {d : Dialogue α} {t : List Exchange} {a : α} {w v : ω}
    (h : d.Follows t a) (answers : S.Answers t w v) : S.hold d w = (a, v) := by
  induction h generalizing w with
  | done a =>
    cases answers
    rfl
  | ask q next answer rest a _ ih =>
    cases answers with
    | cons here answers => rw [hold_ask, here, ih answers]

/-- What is asked and answered when a dialogue is held. -/
def course : Dialogue α → ω → List Exchange
  | .done _, _ => []
  | .ask q next, w => ⟨q, (S.answer q w).1⟩ :: course (next (S.answer q w).1) (S.answer q w).2

theorem follows_course (d : Dialogue α) (w : ω) : d.Follows (S.course d w) (S.hold d w).1 := by
  induction d generalizing w with
  | done a => exact .done a
  | ask q next ih => exact .ask q next _ _ _ (ih _ _)

theorem follows_hold (d : Dialogue α) (w : ω) : ∃ t, d.Follows t (S.hold d w).1 :=
  ⟨_, S.follows_course d w⟩

/-- The surroundings give this answer in one of their states. -/
def CanAnswer (e : Exchange) : Prop := ∃ w, (S.answer e.question w).1 = e.answer

theorem canAnswer_course (d : Dialogue α) (w : ω) : ∀ e ∈ S.course d w, S.CanAnswer e := by
  induction d generalizing w with
  | done a => exact nofun
  | ask q next ih => exact List.forall_mem_cons.mpr ⟨⟨w, rfl⟩, ih _ _⟩

/-- The surroundings stay in some states, whatever is asked. -/
def Stays (P : ω → Prop) : Prop := ∀ q w, P w → P (S.answer q w).2

variable {S} in
theorem Stays.hold {P : ω → Prop} (stays : S.Stays P) (d : Dialogue α) {w : ω} (h : P w) :
    P (S.hold d w).2 := by
  induction d generalizing w with
  | done a => exact h
  | ask q next ih => exact ih _ (stays q w h)

variable {S} in
theorem Stays.answers {P : ω → Prop} (stays : S.Stays P) {t : List Exchange} {w v : ω}
    (answers : S.Answers t w v) (h : P w) : P v := by
  induction answers with
  | nil w => exact h
  | @cons q _ _ w _ _ here _ ih =>
    have hnext := stays q w h
    rw [here] at hnext
    exact ih hnext

/-- Whatever the state of the surroundings, a client comes to this result in them. -/
def Gives (x : Client α) (a : α) : Prop := ∀ w, (S.hold x.run w).1 = .ok a

variable {S}

theorem Gives.pure (a : α) : S.Gives (Pure.pure a) a := fun _ => rfl

theorem Gives.bind {x : Client α} {f : α → Client β} {a : α} {b : β}
    (hx : S.Gives x a) (hf : S.Gives (f a) b) : S.Gives (x >>= f) b := by
  intro w
  change (S.hold (x.run.bind (ExceptT.bindCont f)) w).1 = .ok b
  rw [hold_bind, hx w]
  exact hf _

/-- Surroundings in which every request is answered by a fixed rule, no stream carries anything and
no time passes. -/
def still (rule : Request → Except Failure Response) : Surroundings Unit where
  answer
    | .send r, w => (rule r, w)
    | .openStream _, w => (.ok 0, w)
    | .readLine _, w => (.ok none, w)
    | .sleep _, w => ((), w)
    | .now, w => (0, w)

/-- A sequence, asked for one item after the other, gives these items and then no more. It comes to
that end without a failure. -/
inductive Drains (S : Surroundings ω) (turn : σ → Dialogue (Turn σ (Except Failure (Option α)))) :
    σ → ω → List α → Prop
  | again {s s' : σ} {w w' : ω} {items : List α}
      (here : S.hold (turn s) w = (.again s', w')) (rest : Drains S turn s' w' items) :
      Drains S turn s w items
  | item {s s' : σ} {w w' : ω} {a : α} {items : List α}
      (here : S.hold (turn s) w = (.yield (.ok (some a)) s', w'))
      (rest : Drains S turn s' w' items) : Drains S turn s w (a :: items)
  | ended {s s' : σ} {w w' : ω} (here : S.hold (turn s) w = (.yield (.ok none) s', w')) :
      Drains S turn s w []

theorem Drains.unique {turn : σ → Dialogue (Turn σ (Except Failure (Option α)))} {s : σ}
    {w : ω} {items others : List α}
    (h : S.Drains turn s w items) (h' : S.Drains turn s w others) : items = others := by
  induction h generalizing others with
  | again here _ ih =>
    cases h' with
    | again here' rest' =>
      cases here.symm.trans here'
      exact ih rest'
    | item here' _ => cases here.symm.trans here'
    | ended here' => cases here.symm.trans here'
  | item here _ ih =>
    cases h' with
    | again here' _ => cases here.symm.trans here'
    | item here' rest' =>
      cases here.symm.trans here'
      rw [ih rest']
    | ended here' => cases here.symm.trans here'
  | ended here =>
    cases h' with
    | again here' _ => cases here.symm.trans here'
    | item here' _ => cases here.symm.trans here'
    | ended here' => rfl

/-- A call comes to a result, after as many turns as it takes. -/
inductive Returns (S : Surroundings ω) (turn : σ → Dialogue (Turn σ α)) : σ → ω → α → ω → Prop
  | again {s s' : σ} {w w' v : ω} {a : α} (here : S.hold (turn s) w = (.again s', w'))
      (rest : Returns S turn s' w' a v) : Returns S turn s w a v
  | yield {s s' : σ} {w v : ω} {a : α} (here : S.hold (turn s) w = (.yield a s', v)) :
      Returns S turn s w a v

theorem Returns.unique {turn : σ → Dialogue (Turn σ α)} {s : σ} {w v v' : ω} {a a' : α}
    (h : S.Returns turn s w a v) (h' : S.Returns turn s w a' v') : a = a' ∧ v = v' := by
  induction h with
  | again here _ ih =>
    cases h' with
    | again here' rest' =>
      cases here.symm.trans here'
      exact ih rest'
    | yield here' => cases here.symm.trans here'
  | yield here =>
    cases h' with
    | again here' _ => cases here.symm.trans here'
    | yield here' =>
      cases here.symm.trans here'
      exact ⟨rfl, rfl⟩

theorem Stays.returns {P : ω → Prop} (stays : S.Stays P) {turn : σ → Dialogue (Turn σ α)} {s : σ}
    {w v : ω} {a : α} (h : S.Returns turn s w a v) (hw : P w) : P v := by
  induction h with
  | @again s _ w _ _ _ here _ ih =>
    have hnext := stays.hold (turn s) hw
    rw [here] at hnext
    exact ih hnext
  | @yield s _ w _ _ here =>
    have hnext := stays.hold (turn s) hw
    rwa [here] at hnext

end Surroundings

namespace Client

variable {ω α β : Type} {allowed : Exchange → Prop}

/-- The client comes to this, as long as every answer is one that is allowed. -/
def ComesTo (allowed : Exchange → Prop) (x : Client α) (a : α) : Prop :=
  ∀ asked result, x.run.Follows asked result → (∀ e ∈ asked, allowed e) → result = .ok a

theorem ComesTo.pure (a : α) : ComesTo allowed (Pure.pure a) a := by
  intro asked result h _
  exact (Dialogue.follows_done_iff.mp h).2

theorem ComesTo.bind {x : Client α} {f : α → Client β} {a : α} {b : β}
    (hx : ComesTo allowed x a) (hf : ComesTo allowed (f a) b) : ComesTo allowed (x >>= f) b := by
  intro asked result h each
  change (x.run.bind (ExceptT.bindCont f)).Follows asked result at h
  obtain ⟨before, after, first, rfl, hbefore, hafter⟩ := Dialogue.follows_bind_iff.mp h
  obtain ⟨hallowed, hrest⟩ := List.forall_mem_append.mp each
  obtain rfl := hx before first hbefore hallowed
  exact hf after result hafter hrest

theorem ComesTo.hold {x : Client α} {a : α} (h : ComesTo allowed x a) (S : Surroundings ω) (w : ω)
    (each : ∀ e ∈ S.course x.run w, allowed e) : (S.hold x.run w).1 = .ok a :=
  h _ _ (S.follows_course x.run w) each

theorem ComesTo.gives {S : Surroundings ω} {x : Client α} {a : α} (h : ComesTo S.CanAnswer x a) :
    S.Gives x a := fun w => h.hold S w (S.canAnswer_course x.run w)

end Client

end PipelineObserver
