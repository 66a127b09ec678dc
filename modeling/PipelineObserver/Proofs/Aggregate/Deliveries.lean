import PipelineObserver.Proofs.Aggregate.Progress
/-!
What interleaved logs deliver. Where the calls of the streams return, a call of the logs returns or
waits for the discovery, what was sent is received, and every stream that was sent tells one line
after the other until it has left: `Rota.Delivers`.
-/
namespace PipelineObserver.InterleavedLogs

open Following (Searches Rests Soon)

variable {ω : Type}

/-- How many streams wait to answer or to be started. -/
def unanswered (s : InterleavedLogs) : Nat := s.active.length + (children s.inbox).length

/-- The lines that were told of a stream in some visits. -/
def linesOf (visits : List Visit) (i : Nat) : List String :=
  LogLines.toldLines ((visits.filter (·.stream = i)).flatMap (·.history))

theorem linesOf_append (visits more : List Visit) (i : Nat) :
    linesOf (visits ++ more) i = linesOf visits i ++ linesOf more i := by
  rw [linesOf, List.filter_append, List.flatMap_append, LogLines.toldLines_append]
  rfl

theorem linesOf_self (v : Visit) : linesOf [v] v.stream = LogLines.toldLines v.history := by
  simp [linesOf]

theorem linesOf_open {visits : List Visit} (h : ∀ v ∈ visits, v.IsOpen) (i : Nat) :
    linesOf visits i = [] := by
  induction visits with
  | nil => rfl
  | cons v visits ih =>
    obtain ⟨hv, hvisits⟩ := List.forall_mem_cons.mp h
    have hone : linesOf [v] i = [] := by
      by_cases hi : v.stream = i
      · rw [← hi, linesOf_self, hv.toldLines]
      · rw [linesOf, List.filter_cons_of_neg (by simpa using hi)]
        rfl
    have happend := linesOf_append [v] visits i
    rw [hone, ih hvisits] at happend
    exact happend

/-- A stream that is asked again has told a line. -/
theorem linesOf_keeps {visits : List Visit} {v : Visit} (hv : v ∈ visits) (hkeeps : v.keeps) :
    1 ≤ (linesOf visits v.stream).length := by
  obtain ⟨before, after, rfl⟩ := List.append_of_mem hv
  have hone : LogLines.toldLines v.history ≠ [] := by
    intro hnone
    rw [Visit.keeps, hnone] at hkeeps
    cases hkeeps
  have hpos := List.length_pos_iff.mpr hone
  rw [← linesOf_self] at hpos
  have hsplit : before ++ v :: after = before ++ [v] ++ after := by rw [List.append_assoc]; rfl
  rw [hsplit, linesOf_append, linesOf_append, List.length_append, List.length_append]
  omega

namespace Rota

/-- A stream has ended or has failed. -/
def Left (rota : Rota) (i : Nat) : Prop := ∃ v ∈ visitsOf rota.passes, v.stream = i ∧ v.Leaves

/-- The lines that were told of a stream. -/
def lines (rota : Rota) (i : Nat) : List String := LogLines.toldLines (rota.history i)

variable {rota rota' : Rota} {config : Config} {P : LogLines → ω → Prop} {x y : Following}
  {w v : ω} {sent more : List Event} {n i : Nat}

theorem lines_eq (rota : Rota) (i : Nat) :
    rota.lines i = linesOf (visitsOf rota.passes) i := rfl

/-- All visits are over but the one that is made. -/
theorem Fits.splits {s : InterleavedLogs} (h : rota.Fits config s.inbox s) :
    ∃ past latest, visitsOf rota.passes = past ++ latest ∧ (∀ v ∈ past, v.IsOver) ∧
      (∀ v ∈ latest, v.IsOpen) ∧
      ∀ before v st, s.pulled = some st → rota.Asks before v st → latest = [v] := by
  cases pulled : s.pulled with
  | none =>
    refine ⟨_, [], (List.append_nil _).symm, h.over_of_idle pulled, ?_, ?_⟩
    · exact fun v hv => absurd hv List.not_mem_nil
    · intro before v st hst
      cases hst
  | some st =>
    obtain ⟨before, v, asks⟩ := h.asking st pulled
    refine ⟨_, [v], visitsOf_asks asks, List.forall_mem_append.mpr ⟨h.over_earlier, asks.closed⟩,
      List.forall_mem_singleton.mpr asks.isOpen, fun before' v' st' _ asks' => ?_⟩
    exact (List.append_inj' (asks.visits.symm.trans asks'.visits) rfl).2

/-- A stream that was started has left, or has its place behind the visits that are over. -/
theorem Fits.due {s : InterleavedLogs} (h : rota.Fits config s.inbox s)
    (hi : i < rota.started) : rota.Left i ∨ ∃ past waiting rest,
      past <+: visitsOf rota.passes ∧ (∀ v ∈ past, v.IsOver) ∧
      linesOf past i = rota.lines i ∧
      rota.order = past.map (·.stream) ++ waiting ++ i :: rest := by
  obtain ⟨past, latest, hsplit, hover, hopen, hasks⟩ := h.splits
  have hlines : linesOf past i = rota.lines i := by
    rw [lines_eq, hsplit, linesOf_append, linesOf_open hopen, List.append_nil]
  have hplace (hmem : i ∈ latest.map (·.stream) ++ rota.queue) : ∃ past waiting rest,
      past <+: visitsOf rota.passes ∧ (∀ v ∈ past, v.IsOver) ∧
      linesOf past i = rota.lines i ∧
      rota.order = past.map (·.stream) ++ waiting ++ i :: rest := by
    obtain ⟨waiting, rest, hwaiting⟩ := List.append_of_mem hmem
    refine ⟨past, waiting, rest, ⟨latest, hsplit.symm⟩, hover, hlines, ?_⟩
    rw [Rota.order, hsplit, List.map_append, List.append_assoc, hwaiting, List.append_assoc]
  rcases h.stays hi with hqueue | ⟨before, v, st, pulled, asks, rfl⟩ | hleft
  · exact .inr (hplace (List.mem_append_right _ hqueue))
  · rw [hasks before v st pulled asks] at hplace
    exact .inr (hplace (List.mem_append_left _ (List.mem_singleton_self _)))
  · exact .inl hleft

/-- When its visit is over, it has told one more line or has left. -/
theorem GoesOn.tells (h : rota.GoesOn more rota')
    (hover : ∀ v ∈ visitsOf rota'.passes, v.IsOver) {past : List Visit} {waiting rest : List Nat}
    {i : Nat} (hpast : past <+: visitsOf rota.passes) (hpastOver : ∀ v ∈ past, v.IsOver)
    (hlines : linesOf past i = rota.lines i)
    (horder : rota.order = past.map (·.stream) ++ waiting ++ i :: rest)
    (hanswered : rota'.Answered ((past.map (·.stream) ++ waiting).length + 1)) :
    rota'.Left i ∨ (rota.lines i).length + 1 ≤ (rota'.lines i).length := by
  obtain ⟨later, hlater⟩ := h.closed past hpast hpastOver
  have hlong : waiting.length + 1 ≤ later.length := by
    obtain ⟨past', hpast', -, hlength⟩ := hanswered
    have hle := Nat.le_trans hlength hpast'.length_le
    rw [← hlater, List.length_append, List.length_append, List.length_map] at hle
    omega
  -- The place behind those that wait is that of the stream, whoever joined in meanwhile.
  obtain ⟨v, hv, rfl⟩ : ∃ v ∈ later, v.stream = i := by
    have hplaces := h.order
    rw [horder, Rota.order, ← hlater, List.map_append, List.append_assoc, List.append_assoc,
      List.prefix_append_right_inj] at hplaces
    obtain ⟨others, hothers⟩ := hplaces
    have hplace : ((waiting ++ i :: rest) ++ others)[waiting.length]? = some i := by simp
    rw [hothers, List.getElem?_append_left (by rw [List.length_map]; exact hlong),
      List.getElem?_map] at hplace
    obtain ⟨v, hv, hstream⟩ := Option.map_eq_some_iff.mp hplace
    exact ⟨v, List.mem_of_getElem? hv, hstream⟩
  have hmem : v ∈ visitsOf rota'.passes := hlater ▸ List.mem_append_right _ hv
  cases hkeeps : v.keeps with
  | false => exact .inl ⟨v, hmem, rfl, Visit.leaves_iff.mpr ⟨hover v hmem, hkeeps⟩⟩
  | true =>
    have hmore := linesOf_keeps hv hkeeps
    rw [← hlines, lines_eq, ← hlater, linesOf_append, List.length_append]
    exact .inr (Nat.add_le_add_left hmore _)

/-! ### What is delivered -/

/-- A call of the logs has returned, or it has to wait for what the discovery sends. -/
def Returned (more : List Event) (y : Following) (_ : ω) : Prop :=
  (∃ a, .happened (.yielded a) ∈ more) ∨
    y.logs.pulled = none ∧ y.logs.active = [] ∧ y.logs.inbox = [] ∧ y.logs.senderGone = false

/-- The rota goes on and each of its streams runs on, and then something is true. -/
def Later (config : Config) (goal : Rota → InterleavedLogs → Prop) (rota : Rota)
    (more : List Event) (y : Following) (_ : ω) : Prop :=
  ∃ rota' : Rota, rota'.Fits config y.logs.inbox y.logs ∧ rota'.Ledger y.logs ∧
    rota.GoesOn more rota' ∧ rota.RunsOn rota' ∧ goal rota' y.logs

/-- What the logs deliver, however they go on. -/
structure Delivers (rota : Rota) (config : Config) (S : Surroundings ω) (meanwhile : ω → ω → Prop)
    (x : Following) (w : ω) : Prop where
  -- A call returns, unless it has to wait for the discovery.
  returns : Soon S meanwhile Rests Returned [] x w
  -- All that was sent is received. The streams are started, and the failures are yielded.
  receives : Soon S meanwhile Searches (rota.Later config fun rota' s => s.inbox = [] ∧
    rota'.started = found (eventsOf rota'.passes) ∧
    failuresOf rota'.passes = failures (batches (eventsOf rota'.passes))) [] x w
  -- A stream that was sent tells one line after the other, until it has left.
  tells : ∀ i < found (eventsOf rota.passes), ∀ n, Soon S meanwhile Searches
    (rota.Later config fun rota' _ =>
      rota'.Left i ∨ (rota.lines i).length + n ≤ (rota'.lines i).length) [] x w

namespace Standing

variable {S : Surroundings ω} {meanwhile : ω → ω → Prop}

theorem soon_line (h : rota.Standing config P x w)
    (answering : LogLines.Answering S meanwhile config P) (hi : i < rota.started) :
    Soon S meanwhile Searches (rota.Comes config P fun rota' _ =>
      rota'.Left i ∨ (rota.lines i).length + 1 ≤ (rota'.lines i).length) [] x w := by
  rcases h.fits.due hi with hleft | ⟨past, waiting, rest, hpast, hover, hlines, horder⟩
  · exact h.soon_now (.inl hleft)
  · have hplace : (past.map (·.stream) ++ waiting).length + 1 ≤ rota.order.length := by
      rw [horder]
      simp only [List.length_append, List.length_cons]
      omega
    refine soon_mono (h.soon_answered answering hplace) ?_
    rintro rota' y v more h' hgoes ⟨hidle, hanswered⟩
    exact hgoes.tells (h'.fits.over_of_idle hidle) hpast hover hlines horder hanswered

theorem soon_lines (h : rota.Standing config P x w)
    (answering : LogLines.Answering S meanwhile config P) (hi : i < found (eventsOf rota.passes))
    (n : Nat) : Soon S meanwhile Searches (rota.Comes config P fun rota' _ =>
      rota'.Left i ∨ (rota.lines i).length + n ≤ (rota'.lines i).length) [] x w := by
  -- On the number of lines. The batch of the stream is received before its next line is come to.
  induction n with
  | zero => exact h.soon_now (.inr (Nat.le_refl _))
  | succ n ih =>
    refine soon_then ih ?_
    rintro rota' y v more h' hgoes - (hleft | hlines)
    · exact h'.soon_now (.inl hleft)
    · refine soon_then (h'.soon_received answering) ?_
      rintro rota'' z u rest h'' hgoes' hruns' hempty
      have hstarted : i < rota''.started := by
        rw [(h''.all_received hempty).1, hgoes'.events, hgoes.events, found_append, found_append]
        omega
      have hmore : (rota'.lines i).length ≤ (rota''.lines i).length := by
        have hsent : i < rota'.streams.length := by
          rw [← h'.fits.sent_length, hgoes.events, found_append]
          omega
        obtain ⟨news, l, -, hhistory, -⟩ := hruns' i _ (List.getElem?_eq_getElem hsent)
        rw [lines, lines, hhistory, LogLines.toldLines_append, List.length_append]
        exact Nat.le_add_right ..
      refine soon_mono (h''.soon_line answering hstarted) ?_
      rintro last _ _ _ - - (hleft | htold)
      · exact .inl hleft
      · exact .inr (by omega)

/-! A call is followed while the discovery rests. -/

theorem soon_returned_after (before : List Event) (h : Soon S meanwhile Rests Returned [] x w) :
    Soon S meanwhile Rests Returned before x w := by
  have hafter : Soon S meanwhile Rests (fun more => Returned (before ++ more)) [] x w :=
    h.mono fun more y v hreturned =>
      hreturned.imp_left fun ⟨a, ha⟩ => ⟨a, List.mem_append_right _ ha⟩
  have hsoon := hafter.after before
  rwa [List.append_nil] at hsoon

theorem soon_returned_of_turn (h : rota.Standing config P x w)
    (answering : LogLines.Answering S meanwhile config P)
    (next : ∀ (now next : Rota) w' t o v, meanwhile w w' → now.Standing config P x w' →
      x.logs.turn.Follows t o → S.Answers t w' v →
      next.Standing config P ⟨x.discovery, stateAfter o⟩ v →
      Soon S meanwhile Rests Returned (seen t o) ⟨x.discovery, stateAfter o⟩ v) :
    Soon S meanwhile Rests Returned [] x w := by
  refine .turn fun sent y w' t o v ⟨hsent, hy⟩ passes ht answers => ?_
  subst hsent hy
  obtain ⟨now, hnow, -, -⟩ := h.searches answering .idle passes
  obtain ⟨rota', hnext, -, -⟩ := hnow.turns answering ht answers
  exact next now rota' w' t o v passes hnow ht answers hnext

/-- The stream that is asked answers. Unless it gives a line or fails, another one is asked. -/
theorem soon_returned_of_asked (h : rota.Standing config P x w)
    (answering : LogLines.Answering S meanwhile config P) {st : TaskStream}
    (pulled : x.logs.pulled = some st)
    (next : ∀ (rota' : Rota) y v, rota'.Standing config P y v → y.logs.pulled = none →
      y.logs.unanswered = x.logs.unanswered → Soon S meanwhile Rests Returned [] y v) :
    Soon S meanwhile Rests Returned [] x w := by
  have returns := answering.returns _ _ (h.streams.pulled st pulled)
  generalize hlines : st.lines = l at returns
  induction returns generalizing rota x st with
  | @turn l w _ ih =>
    subst hlines
    refine h.soon_returned_of_turn answering
      fun now rota' w' t o v passes _ ht answers hnext => ?_
    obtain ⟨z, hz, rfl⟩ := (follows_turn_pulled pulled).mp ht
    rcases z with l | ⟨e | _ | line, l⟩
    · exact soon_returned_after _ (ih w' t l v passes hz answers hnext rfl next rfl)
    · exact .now (.inl ⟨_, List.mem_concat_self⟩)
    · exact soon_returned_after _ (next rota' _ v hnext rfl rfl)
    · exact .now (.inl ⟨_, List.mem_concat_self⟩)

/-- A call returns, or it has to wait for what the discovery sends. -/
theorem soon_returned (h : rota.Standing config P x w)
    (answering : LogLines.Answering S meanwhile config P) :
    Soon S meanwhile Rests Returned [] x w := by
  generalize hn : x.logs.unanswered = n
  -- A stream that leaves is not asked again, and none is sent while the discovery rests.
  induction n using Nat.strongRecOn generalizing rota x w with
  | ind n ih =>
    subst hn
    have hidle {rota : Rota} {y : Following} {w : ω} (h : rota.Standing config P y w)
        (pulled : y.logs.pulled = none) (same : y.logs.unanswered = x.logs.unanswered) :
        Soon S meanwhile Rests Returned [] y w := by
      refine h.soon_returned_of_turn answering
        fun now rota' w' t o v _ hnow ht _ hnext => ?_
      obtain ⟨rfl, rfl⟩ := (follows_turn_none pulled).mp ht
      obtain ⟨joined, hjoined, -, hlength, -⟩ := y.logs.received_joins
      have hadvances := advance_advances y.logs
      generalize y.logs.advance = o at hadvances ht hnext
      cases hadvances with
      | fails _ => exact .now (.inl ⟨_, List.mem_concat_self⟩)
      | ends _ _ _ => exact .now (.inl ⟨_, List.mem_concat_self⟩)
      | waits _ _ _ =>
        obtain ⟨hpulled, hactive, hinbox, hopen⟩ := hnow.fits.waits ht
        exact .now (.inr ⟨hpulled, hactive, hinbox, (turn_takes ht).1.trans hopen⟩)
      | @pulls s' st rest hs hactive =>
        rw [hs] at hjoined hlength
        refine soon_returned_after _ (ih _ ?_ hnext rfl)
        have hfewer := congrArg List.length (hactive.symm.trans hjoined)
        rw [List.length_cons, List.length_append] at hfewer
        rw [← same, unanswered, unanswered, ← hlength]
        simp only [stateAfter]
        omega
    cases pulled : x.logs.pulled with
    | none => exact hidle h pulled rfl
    | some st => exact h.soon_returned_of_asked answering pulled fun _ _ _ => hidle

/-- Where the calls of the streams return, all is delivered. -/
theorem delivers (h : rota.Standing config P x w)
    (answering : LogLines.Answering S meanwhile config P) :
    rota.Delivers config S meanwhile x w where
  returns := h.soon_returned answering
  receives := (h.soon_received answering).mono
    fun _ _ _ ⟨rota', h', hgoes, hruns, hempty⟩ =>
      ⟨rota', h'.fits, h'.fits.ledger h'.settled, hgoes, hruns, hempty, h'.all_received hempty⟩
  tells := fun _ hi n => (h.soon_lines answering hi n).mono
    fun _ _ _ ⟨rota', h', hgoes, hruns, htold⟩ =>
      ⟨rota', h'.fits, h'.fits.ledger h'.settled, hgoes, hruns, htold⟩

end Standing

/-- In any surroundings in which the calls of the streams return, all is delivered. -/
def Reliable (rota : Rota) (config : Config) (x : Following) : Prop :=
  ∀ (ω : Type) (S : Surroundings ω) (meanwhile : ω → ω → Prop) (P : LogLines → ω → Prop),
    LogLines.Answering S meanwhile config P → ∀ w, x.logs.All P w →
      rota.Delivers config S meanwhile x w

theorem Fits.reliable (h : rota.Fits config x.logs.inbox x.logs)
    (settled : rota.Settled x.logs.inbox) (last : x.FailsLast (eventsOf rota.passes))
    (connected : x.discovery.isSome → x.logs.senderGone = false) : rota.Reliable config x := by
  intro ω S meanwhile P answering w streams
  have hstanding : rota.Standing config P x w := ⟨h, settled, last, connected, streams⟩
  exact hstanding.delivers answering

end Rota

end PipelineObserver.InterleavedLogs
