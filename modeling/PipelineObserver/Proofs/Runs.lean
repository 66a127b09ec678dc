import PipelineObserver.Dialogue.Transcript
/-!
Runs taken apart into their turns. What one turn keeps is kept by every run: `Run.keeps`. Whatever
was asked or yielded in a run belongs to one of its turns: `Run.turn_of_asked`,
`Run.turn_of_yielded`.
-/
namespace PipelineObserver

variable {σ α : Type}

namespace Turn

def state : Turn σ α → σ
  | again s => s
  | yield _ s => s

@[simp] theorem state_again (s : σ) : (again s : Turn σ α).state = s := rfl

@[simp] theorem state_yield (a : α) (s : σ) : (yield a s).state = s := rfl

/-- What happens in a turn with the given transcript. -/
def happenings (t : List Exchange) : Turn σ α → List (Happening α)
  | again _ => t.map .exchanged
  | yield a _ => t.map .exchanged ++ [.yielded a]

/-- What a turn yields, if it yields. -/
def yields : Turn σ α → List α
  | again _ => []
  | yield a _ => [a]

@[simp] theorem yields_again (s : σ) : (again s : Turn σ α).yields = [] := rfl

@[simp] theorem yields_yield (a : α) (s : σ) : (yield a s).yields = [a] := rfl

end Turn

/-- What was asked and answered. -/
def exchanges (happened : List (Happening α)) : List Exchange :=
  happened.filterMap fun
    | .exchanged e => some e
    | .yielded _ => none

theorem exchanges_append (happened more : List (Happening α)) :
    exchanges (happened ++ more) = exchanges happened ++ exchanges more := List.filterMap_append

theorem exchanges_asked (t : List Exchange) :
    exchanges (t.map (Happening.exchanged : Exchange → Happening α)) = t := by
  induction t with
  | nil => rfl
  | cons e t ih => exact congrArg (e :: ·) ih

theorem exchanges_happenings (t : List Exchange) (o : Turn σ α) :
    exchanges (o.happenings t) = t := by
  cases o with
  | again s => exact exchanges_asked t
  | yield a s =>
    rw [Turn.happenings, exchanges_append, exchanges_asked]
    exact List.append_nil t

/-- What was yielded, in its order. -/
def yields (happened : List (Happening α)) : List α :=
  happened.filterMap fun
    | .exchanged _ => none
    | .yielded a => some a

theorem yields_append (happened more : List (Happening α)) :
    yields (happened ++ more) = yields happened ++ yields more := List.filterMap_append

theorem yields_asked (t : List Exchange) :
    yields (t.map (Happening.exchanged : Exchange → Happening α)) = [] := by
  simp [yields]

theorem yields_happenings (t : List Exchange) (o : Turn σ α) :
    yields (o.happenings t) = o.yields := by
  cases o with
  | again s => exact yields_asked t
  | yield a s =>
    rw [Turn.happenings, yields_append, yields_asked]
    rfl

theorem mem_yields {a : α} {happened : List (Happening α)} :
    a ∈ yields happened ↔ .yielded a ∈ happened := by
  constructor
  · intro h
    obtain ⟨_ | b, hmem, hb⟩ := List.mem_filterMap.mp h
    · cases hb
    · cases hb
      exact hmem
  · intro h
    exact List.mem_filterMap.mpr ⟨.yielded a, h, rfl⟩

variable {turn : σ → Dialogue (Turn σ α)} {s s' : σ} {before after happened : List (Happening α)}

namespace Run

theorem step {t : List Exchange} {o : Turn σ α} (h : (turn s).Follows t o)
    (rest : Run turn o.state happened s') : Run turn s (o.happenings t ++ happened) s' := by
  cases o with
  | again m => exact .again h rest
  | yield a m =>
    have hlist : (Turn.yield a m).happenings t ++ happened =
        t.map .exchanged ++ .yielded a :: happened := List.append_assoc ..
    rw [hlist]
    exact .yield h rest

theorem then_turn {t : List Exchange} {o : Turn σ α} (run : Run turn s happened s')
    (h : (turn s').Follows t o) : Run turn s (happened ++ o.happenings t) o.state := by
  have hturn := Run.step h (.refl o.state)
  rw [List.append_nil] at hturn
  exact run.trans hturn

/-- A run is made of turns, whether they yield or not. -/
@[elab_as_elim]
theorem induction_on_turns {motive : ∀ s happened s', Run turn s happened s' → Prop}
    (refl : ∀ s, motive s [] s (.refl s))
    (step : ∀ s t (o : Turn σ α) rest s' (here : (turn s).Follows t o)
      (later : Run turn o.state rest s'), motive o.state rest s' later →
      motive s (o.happenings t ++ rest) s' (.step here later))
    {s : σ} {happened : List (Happening α)} {s' : σ} (run : Run turn s happened s') :
    motive s happened s' run := by
  induction run with
  | refl s => exact refl s
  | again here later ih => exact step _ _ (.again _) _ _ here later ih
  | @yield _ m _ t a rest here later ih =>
    have hlist : (Turn.yield a m).happenings t ++ rest = t.map .exchanged ++ .yielded a :: rest :=
      List.append_assoc ..
    have hstep := step _ t (.yield a m) rest _ here later ih
    simpa only [hlist] using hstep

/-- What every turn keeps, whatever happened before it, is kept by a run. -/
theorem keeps {P : List (Happening α) → σ → Prop}
    (step : ∀ before s t o, P before s → (turn s).Follows t o →
      P (before ++ o.happenings t) o.state)
    (start : P before s) (run : Run turn s happened s') : P (before ++ happened) s' := by
  induction run using induction_on_turns generalizing before with
  | refl s => rwa [List.append_nil]
  | step s t o rest s' here _ ih =>
    rw [← List.append_assoc]
    exact ih (step before s t o start here)

/-- What every silent turn keeps is kept as long as nothing is yielded. -/
theorem keeps_silent {P : List Exchange → σ → Prop}
    (step : ∀ asked s t s', P asked s → (turn s).Follows t (.again s') → P (asked ++ t) s')
    (start : P [] s) {asked : List Exchange} (run : Run turn s (asked.map .exchanged) s') :
    P asked s' := by
  -- Nothing is said of a run once it has yielded something.
  have hstart : yields ([] : List (Happening α)) = [] → P (exchanges ([] : List (Happening α))) s :=
    fun _ => start
  have hkept := run.keeps (P := fun happened s => yields happened = [] → P (exchanges happened) s)
    ?_ hstart
  · rw [List.nil_append, exchanges_asked] at hkept
    exact hkept (yields_asked asked)
  · intro before m t o h ht hyields
    rw [yields_append, yields_happenings, List.append_eq_nil_iff] at hyields
    rw [exchanges_append, exchanges_happenings]
    cases o with
    | again m' => exact step _ m t m' (h hyields.1) ht
    | yield a m' => cases hyields.2

end Run

theorem append_eq_append_cons {β : Type} {xs ys zs ws : List β} {a : β}
    (h : xs ++ ys = zs ++ a :: ws) :
    (∃ bs, zs = xs ++ bs ∧ ys = bs ++ a :: ws) ∨ ∃ bs, xs = zs ++ a :: bs ∧ ws = bs ++ ys := by
  rcases List.append_eq_append_iff.mp h with ⟨bs, hzs, hys⟩ | ⟨bs, hxs, hws⟩
  · exact .inl ⟨bs, hzs, hys⟩
  · cases bs with
    | nil => exact .inl ⟨[], by rw [hxs, List.append_nil, List.append_nil], hws.symm⟩
    | cons b bs =>
      obtain ⟨rfl, rfl⟩ := List.cons.inj hws
      exact .inr ⟨bs, hxs, rfl⟩

theorem Turn.transcript_of_asked {o : Turn σ α} {t : List Exchange} {e : Exchange}
    (h : o.happenings t = before ++ .exchanged e :: after) :
    ∃ u v, t = u ++ e :: v ∧ before = u.map .exchanged ∧ after = o.happenings v := by
  have hasked {t : List Exchange} {rest : List (Happening α)}
      (h : t.map .exchanged = before ++ .exchanged e :: rest) :
      ∃ u v, t = u ++ e :: v ∧ before = u.map .exchanged ∧ rest = v.map .exchanged := by
    obtain ⟨u, w, rfl, hu, hw⟩ := List.map_eq_append_iff.mp h
    obtain ⟨e', v, rfl, he, hv⟩ := List.map_eq_cons_iff.mp hw
    cases he
    exact ⟨u, v, rfl, hu.symm, hv.symm⟩
  cases o with
  | again s => exact hasked h
  | yield a s =>
    rcases append_eq_append_cons h with ⟨bs, -, hbs⟩ | ⟨bs, ht, rfl⟩
    · -- What is yielded is no exchange.
      cases bs with
      | nil => cases hbs
      | cons b bs => simp at hbs
    · obtain ⟨u, v, rfl, rfl, rfl⟩ := hasked ht
      exact ⟨u, v, rfl, rfl, rfl⟩

theorem Turn.yield_of_yielded {o : Turn σ α} {t : List Exchange} {a : α}
    (h : o.happenings t = before ++ .yielded a :: after) :
    before = t.map .exchanged ∧ o = .yield a o.state ∧ after = [] := by
  have hnot {bs : List (Happening α)} : t.map .exchanged ≠ before ++ .yielded a :: bs := by
    intro h
    have hmem : Happening.yielded a ∈ t.map .exchanged := by rw [h]; simp
    simp at hmem
  cases o with
  | again s => exact absurd h hnot
  | yield b s =>
    rcases append_eq_append_cons h with ⟨bs, hbefore, hbs⟩ | ⟨bs, ht, -⟩
    · cases bs with
      | nil =>
        cases hbs
        exact ⟨by rw [hbefore, List.append_nil], rfl, rfl⟩
      | cons b bs => simp at hbs
    · exact absurd ht hnot

namespace Run

/-- The turn in which something was asked, with what happened before it and after it. -/
theorem turn_of_asked {e : Exchange} (run : Run turn s (before ++ .exchanged e :: after) s') :
    ∃ first m u v o rest, before = first ++ u.map .exchanged ∧ after = o.happenings v ++ rest ∧
      Run turn s first m ∧ (turn m).Follows (u ++ e :: v) o ∧ Run turn o.state rest s' := by
  generalize hhappened : before ++ .exchanged e :: after = happened at run
  induction run using induction_on_turns generalizing before with
  | refl s => simp at hhappened
  | step s t o rest s' here later ih =>
    rcases append_eq_append_cons hhappened.symm with ⟨bs, rfl, hbs⟩ | ⟨bs, hbs, rfl⟩
    · obtain ⟨first, m, u, v, o', rest', rfl, hafter, hrun, hturn, hrest⟩ := ih hbs.symm
      exact ⟨o.happenings t ++ first, m, u, v, o', rest', (List.append_assoc ..).symm, hafter,
        .step here hrun, hturn, hrest⟩
    · obtain ⟨u, v, rfl, rfl, rfl⟩ := Turn.transcript_of_asked hbs
      exact ⟨[], s, u, v, o, rest, rfl, rfl, .refl s, here, later⟩

/-- The turn in which something was yielded, with what happened before it and after it. -/
theorem turn_of_yielded {a : α} (run : Run turn s (before ++ .yielded a :: after) s') :
    ∃ first m t m', before = first ++ t.map .exchanged ∧ Run turn s first m ∧
      (turn m).Follows t (.yield a m') ∧ Run turn m' after s' := by
  generalize hhappened : before ++ .yielded a :: after = happened at run
  induction run using induction_on_turns generalizing before with
  | refl s => simp at hhappened
  | step s t o rest s' here later ih =>
    rcases append_eq_append_cons hhappened.symm with ⟨bs, rfl, hbs⟩ | ⟨bs, hbs, rfl⟩
    · obtain ⟨first, m, t', m', rfl, hrun, hturn, hrest⟩ := ih hbs.symm
      exact ⟨o.happenings t ++ first, m, t', m', (List.append_assoc ..).symm, .step here hrun,
        hturn, hrest⟩
    · obtain ⟨rfl, ho, rfl⟩ := Turn.yield_of_yielded hbs
      rw [ho] at here
      exact ⟨[], s, t, o.state, rfl, .refl s, here, later⟩

end Run

/-! ### Calls -/

/-- A call: turns are taken until one of them yields. -/
def Call (turn : σ → Dialogue (Turn σ α)) (s : σ) (asked : List Exchange) (a : α) (s' : σ) : Prop :=
  ∃ before last m, asked = before ++ last ∧ Run turn s (before.map .exchanged) m ∧
    (turn m).Follows last (.yield a s')

section Silent

variable {β : Type} {turn : σ → Dialogue (Turn σ (Except Failure (Option β)))} {s : σ}

/-- The end is told to every call, and nothing is asked any more. -/
def Silent (turn : σ → Dialogue (Turn σ (Except Failure (Option β)))) (s : σ) : Prop :=
  (∀ calls, ∃ s', Run turn s (List.replicate calls (.yielded (.ok none))) s') ∧
    ∀ rest s', Run turn s rest s' → ∃ calls, rest = List.replicate calls (.yielded (.ok none))

/-- An activity is silent if each of its turns tells the end and leaves it as silent as it was. -/
theorem Silent.of_turns {P : σ → Prop}
    (told : ∀ s, P s → ∃ s', turn s = .done (.yield (.ok none) s') ∧ P s') (h : P s) :
    Silent turn s := by
  constructor
  · intro calls
    induction calls generalizing s with
    | zero => exact ⟨s, .refl s⟩
    | succ calls ih =>
      obtain ⟨m, hturn, hm⟩ := told s h
      obtain ⟨s', hrun⟩ := ih hm
      have hstep : (turn s).Follows [] (.yield (.ok none) m) := hturn ▸ .done _
      exact ⟨s', Run.yield hstep hrun⟩
  · intro rest s' run
    induction run using Run.induction_on_turns with
    | refl s => exact ⟨0, rfl⟩
    | step s t o rest s' here _ ih =>
      obtain ⟨m, hturn, hm⟩ := told s h
      rw [hturn, Dialogue.follows_done_iff] at here
      obtain ⟨rfl, rfl⟩ := here
      obtain ⟨calls, rfl⟩ := ih hm
      exact ⟨calls + 1, rfl⟩

end Silent

end PipelineObserver
