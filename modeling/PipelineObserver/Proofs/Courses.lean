import PipelineObserver.Proofs.Runs
import PipelineObserver.Proofs.Surroundings
/-!
Runs in surroundings that answer every question. There is always one more turn: `exists_turn`. Of
two runs from one state the shorter is the beginning of the longer (`Takes.beginning`), so that a
sequence comes to its end in one way at most: `Ends.unique`.
-/
namespace PipelineObserver.Surroundings

variable {ω σ α : Type} {S : Surroundings ω}

theorem answers_append_iff {t u : List Exchange} {w v : ω} :
    S.Answers (t ++ u) w v ↔ ∃ m, S.Answers t w m ∧ S.Answers u m v := by
  induction t generalizing w with
  | nil =>
    constructor
    · intro h
      exact ⟨w, .nil w, h⟩
    · rintro ⟨m, ⟨⟩, h⟩
      exact h
  | cons e t ih =>
    constructor
    · rintro (_ | ⟨here, rest⟩)
      obtain ⟨m, ht, hu⟩ := ih.mp rest
      exact ⟨m, .cons here ht, hu⟩
    · rintro ⟨m, _ | ⟨here, ht⟩, hu⟩
      exact .cons here (ih.mpr ⟨m, ht, hu⟩)

variable (S) in
theorem follows_answers (d : Dialogue α) (w : ω) :
    ∃ t, d.Follows t (S.hold d w).1 ∧ S.Answers t w (S.hold d w).2 := by
  induction d generalizing w with
  | done a => exact ⟨[], .done a, .nil w⟩
  | ask q next ih =>
    obtain ⟨t, ht, hanswers⟩ := ih (S.answer q w).1 (S.answer q w).2
    exact ⟨_, .ask q next _ t _ ht, .cons rfl hanswers⟩

/-- The surroundings leave a dialogue no choice. -/
theorem answers_unique {d : Dialogue α} {t t' : List Exchange} {a a' : α} {w v v' : ω}
    (h : d.Follows t a) (answers : S.Answers t w v) (h' : d.Follows t' a')
    (answers' : S.Answers t' w v') : t = t' ∧ a = a' ∧ v = v' := by
  induction h generalizing w t' with
  | done a =>
    obtain ⟨rfl, rfl⟩ := Dialogue.follows_done_iff.mp h'
    cases answers
    cases answers'
    exact ⟨rfl, rfl, rfl⟩
  | ask q next answer rest a _ ih =>
    obtain ⟨answer', rest', rfl, hrest'⟩ := Dialogue.follows_ask_iff.mp h'
    rcases answers with _ | ⟨here, answers⟩
    rcases answers' with _ | ⟨here', answers'⟩
    cases here.symm.trans here'
    obtain ⟨rfl, rfl, rfl⟩ := ih answers hrest' answers'
    exact ⟨rfl, rfl, rfl⟩

/-- An activity runs in the surroundings, from one state of both to another. -/
structure Takes (S : Surroundings ω) (turn : σ → Dialogue (Turn σ α)) (s : σ) (w : ω)
    (happened : List (Happening α)) (s' : σ) (v : ω) : Prop where
  run : Run turn s happened s'
  answers : S.Answers (exchanges happened) w v

variable {turn : σ → Dialogue (Turn σ α)} {s s' s'' : σ} {w v v' : ω}
  {happened more : List (Happening α)}

variable (S turn) in
theorem exists_turn (s : σ) (w : ω) :
    ∃ t o v, (turn s).Follows t o ∧ S.Answers t w v ∧ S.hold (turn s) w = (o, v) := by
  obtain ⟨t, ht, hanswers⟩ := S.follows_answers (turn s) w
  exact ⟨t, _, _, ht, hanswers, rfl⟩

namespace Takes

theorem refl (s : σ) (w : ω) : S.Takes turn s w [] s w := ⟨.refl s, .nil w⟩

theorem trans (h : S.Takes turn s w happened s' v) (h' : S.Takes turn s' v more s'' v') :
    S.Takes turn s w (happened ++ more) s'' v' := by
  refine ⟨h.run.trans h'.run, ?_⟩
  rw [exchanges_append]
  exact answers_append_iff.mpr ⟨v, h.answers, h'.answers⟩

theorem of_turn {t : List Exchange} {o : Turn σ α} (h : (turn s).Follows t o)
    (answers : S.Answers t w v) : S.Takes turn s w (o.happenings t) o.state v := by
  have hrun := Run.step h (.refl o.state)
  rw [List.append_nil] at hrun
  exact ⟨hrun, by rwa [exchanges_happenings]⟩

/-- A run is nothing yet, or one turn and then a run. -/
theorem first_turn (h : S.Takes turn s w happened s' v) :
    happened = [] ∧ s' = s ∧ v = w ∨ ∃ t o m rest, happened = o.happenings t ++ rest ∧
      (turn s).Follows t o ∧ S.Answers t w m ∧ S.Takes turn o.state m rest s' v := by
  obtain ⟨run, answers⟩ := h
  cases run using Run.induction_on_turns with
  | refl s =>
    cases answers
    exact .inl ⟨rfl, rfl, rfl⟩
  | step s t o rest s' here later =>
    rw [exchanges_append, exchanges_happenings] at answers
    obtain ⟨m, ht, hrest⟩ := answers_append_iff.mp answers
    exact .inr ⟨t, o, m, rest, rfl, here, ht, later, hrest⟩

/-- Of two runs from one state, one is the beginning of the other. -/
theorem beginning (h : S.Takes turn s w happened s' v) (h' : S.Takes turn s w more s'' v') :
    happened <+: more ∨ more <+: happened := by
  obtain ⟨run, answers⟩ := h
  -- On the turns of the first run: the second is over, or has to make the same turn.
  induction run using Run.induction_on_turns generalizing w more with
  | refl s => exact .inl (List.nil_prefix)
  | step s t o rest s' here later ih =>
    rw [exchanges_append, exchanges_happenings] at answers
    obtain ⟨m, ht, hrest⟩ := answers_append_iff.mp answers
    rcases h'.first_turn with ⟨rfl, -, -⟩ | ⟨t', o', m', rest', rfl, here', ht', later'⟩
    · exact .inr List.nil_prefix
    · obtain ⟨rfl, rfl, rfl⟩ := answers_unique here ht here' ht'
      rcases ih later' hrest with hbegins | hbegins
      · exact .inl ((List.prefix_append_right_inj _).mpr hbegins)
      · exact .inr ((List.prefix_append_right_inj _).mpr hbegins)

end Takes

/-! ### Sequences that end -/

section Ends

variable {β : Type} {turn : σ → Dialogue (Turn σ (Except Failure (Option β)))} {s : σ} {w v : ω}
  {happened rest : List (Happening (Except Failure (Option β)))}

/-- A sequence that is asked for one item after the other, whatever it tells, comes to its end, and
this happens before. -/
def Ends (S : Surroundings ω) (turn : σ → Dialogue (Turn σ (Except Failure (Option β)))) (s : σ)
    (w : ω) (happened : List (Happening (Except Failure (Option β)))) : Prop :=
  .ok none ∉ yields happened ∧ ∃ s' v, S.Takes turn s w (happened ++ [.yielded (.ok none)]) s' v

namespace Ends

theorem last {t : List Exchange} {s' : σ} (h : (turn s).Follows t (.yield (.ok none) s'))
    (answers : S.Answers t w v) : S.Ends turn s w (t.map .exchanged) := by
  refine ⟨?_, s', v, Takes.of_turn h answers⟩
  rw [yields_asked]
  exact List.not_mem_nil

/-- A run that does not tell the end may come before it. -/
theorem after {taken : List (Happening (Except Failure (Option β)))} {s' : σ}
    (h : S.Takes turn s w taken s' v) (untold : .ok none ∉ yields taken)
    (later : S.Ends turn s' v rest) : S.Ends turn s w (taken ++ rest) := by
  obtain ⟨hrest, s'', v', htakes⟩ := later
  refine ⟨?_, s'', v', ?_⟩
  · rw [yields_append, List.mem_append]
    exact not_or.mpr ⟨untold, hrest⟩
  · rw [List.append_assoc]
    exact h.trans htakes

theorem step {t : List Exchange} {o : Turn σ (Except Failure (Option β))}
    (h : (turn s).Follows t o) (answers : S.Answers t w v) (hyields : .ok none ∉ o.yields)
    (later : S.Ends turn o.state v rest) : S.Ends turn s w (o.happenings t ++ rest) :=
  .after (.of_turn h answers) (by rwa [yields_happenings]) later

/-- A sequence ends if it does so after one of its turns, or with it. -/
theorem of_turn {t : List Exchange} {o : Turn σ (Except Failure (Option β))}
    (h : (turn s).Follows t o) (answers : S.Answers t w v)
    (later : ∃ rest, S.Ends turn o.state v rest) : ∃ happened, S.Ends turn s w happened := by
  by_cases hyields : .ok none ∈ o.yields
  · cases o with
    | again s' => cases hyields
    | yield a s' =>
      cases List.mem_singleton.mp hyields
      exact ⟨_, .last h answers⟩
  · obtain ⟨rest, hrest⟩ := later
    exact ⟨_, .step h answers hyields hrest⟩

/-- Whatever is taken of an ending sequence, the end has been told or is still to come. -/
theorem beginning (h : S.Ends turn s w happened) {taken : List (Happening _)} {s' : σ}
    (htaken : S.Takes turn s w taken s' v) :
    happened ++ [.yielded (.ok none)] <+: taken ∨ taken <+: happened := by
  obtain ⟨-, _, _, hends⟩ := h
  rcases hends.beginning htaken with hbegins | hbegins
  · exact .inl hbegins
  · rcases List.prefix_concat_iff.mp hbegins with rfl | hbegins
    · exact .inl (List.prefix_refl _)
    · exact .inr hbegins

theorem unique (h : S.Ends turn s w happened) (h' : S.Ends turn s w rest) : happened = rest := by
  -- Neither is cut short by the other, since the end would be told too early.
  have hshort {l l' : List (Happening (Except Failure (Option β)))} (hl' : .ok none ∉ yields l')
      (hbegins : l ++ [.yielded (.ok none)] <+: l') : False := by
    apply hl'
    rw [mem_yields]
    apply hbegins.subset
    simp
  have hlonger {l l' : List (Happening (Except Failure (Option β)))} (hends : S.Ends turn s w l)
      (hends' : S.Ends turn s w l') : l' <+: l := by
    obtain ⟨_, _, htaken⟩ := hends'.2
    rcases hends.beginning htaken with hbegins | hbegins
    · rcases List.prefix_concat_iff.mp hbegins with heq | hbegins
      · exact (List.append_cancel_right heq).symm ▸ List.prefix_refl _
      · exact (hshort hends'.1 hbegins).elim
    · exact (List.prefix_append _ _).trans hbegins
  exact (hlonger h' h).eq_of_length_le (hlonger h h').length_le

end Ends

end Ends

end PipelineObserver.Surroundings
