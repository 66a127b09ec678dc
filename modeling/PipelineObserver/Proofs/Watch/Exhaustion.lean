import Mathlib.Logic.Relation
import PipelineObserver.Proofs.Courses
import PipelineObserver.Proofs.Tracker.Discovery
import PipelineObserver.Proofs.Tracker.Start
/-!
Watches come to an end wherever streams do. Each silent turn of a channel either spends some of its
connections, goes on to the next part of one, or takes a line from a stream that runs dry. What is
told is paid for by a line or by a connection, so that the number of calls is bounded by these:
`Tracker.watching_ends`.
-/
namespace PipelineObserver

/-- A line of a stream arrived. -/
def Exchange.isLine : Exchange → Bool
  | ⟨.readLine _, .ok (some _)⟩ => true
  | _ => false

/-- An ordinary request was answered. -/
def Exchange.isSent : Exchange → Bool
  | ⟨.send _, _⟩ => true
  | _ => false

namespace Surroundings

variable {ω : Type} (S : Surroundings ω)

def Sends (w v : ω) : Prop := ∃ r, (S.answer (.send r) w).2 = v

/-- A line of a stream arrives, after any requests. -/
def Brings (id : StreamId) (v w : ω) : Prop :=
  ∃ u line, Relation.ReflTransGen S.Sends w u ∧ S.answer (.readLine id) u = (.ok (some line), v)

/-- A stream delivers finitely many lines, whatever is asked between them. -/
def RunsDry (id : StreamId) (w : ω) : Prop := Acc (S.Brings id) w

/-- Every stream that is opened delivers finitely many lines, and then is closed or breaks. -/
def StreamsEnd : Prop := ∀ r id w v, S.answer (.openStream r) w = (.ok id, v) → S.RunsDry id v

variable {S} {id : StreamId} {w v : ω}

theorem RunsDry.sends (h : S.RunsDry id w) (sends : Relation.ReflTransGen S.Sends w v) :
    S.RunsDry id v := by
  apply Acc.intro
  rintro u ⟨m, line, hm, hline⟩
  exact h.inv ⟨m, line, sends.trans hm, hline⟩

theorem sends_of_answers {t : List Exchange} (ht : ∀ e ∈ t, e.isSent = true)
    (answers : S.Answers t w v) : Relation.ReflTransGen S.Sends w v := by
  induction answers with
  | nil w => exact .refl
  | @cons q answer t w m v here _ ih =>
    have hq := ht _ (List.mem_cons_self ..)
    cases q with
    | send r => exact .head ⟨r, by rw [here]⟩ (ih fun e he => ht e (List.mem_cons_of_mem _ he))
    | _ => cases hq

end Surroundings

namespace WatchChannel

variable {ch : WatchChannel} {t : List Exchange} {o : Outcome}

def IsOver (ch : WatchChannel) : Prop := ch.state = .exhausted ∨ ch.state = .failed

/-! ### What a step costs -/

/-- The connections that are left, three for each: opening it, reading from it and the pause after
it. -/
def rank (ch : WatchChannel) : Nat :=
  match ch.state with
  | .streaming => 3 * (ch.settings.maxAttempts - ch.attempts) + 1
  | .connecting => 3 * (ch.settings.maxAttempts - (ch.attempts + 1)) + 2
  | .backoff => 3 * (ch.settings.maxAttempts - (ch.attempts + 1)) + 3
  | .exhausted | .failed => 0

theorem rank_disconnected (ch : WatchChannel) :
    ch.disconnected.rank ≤ 3 * (ch.settings.maxAttempts - ch.attempts) := by
  have hsettings : ch.disconnected.settings = ch.settings := rfl
  have hattempts : ch.disconnected.attempts = ch.attempts := rfl
  rcases disconnected_state ch with ⟨h, hleft⟩ | ⟨h, -⟩
  · simp only [rank, h, hsettings, hattempts]
    omega
  · simp only [rank, h]
    omega

/-- A step either goes down, or takes a line and leaves the channel as it was. -/
theorem Step.descends (hs : Step ch t o) (hopen : ¬ ch.IsOver) :
    o.state.rank < ch.rank ∨ o.state = ch ∧ ∃ id line asked, ch.Streams id ∧
      t = ⟨.readLine id, .ok (some line)⟩ :: asked ∧ ∀ e ∈ asked, e.isSent = true := by
  cases hs with
  | connected id h =>
    left
    simp only [rank, h, Turn.state_again, tried, settings]
    omega
  | lost e h transient =>
    have hrank := rank_disconnected ch.tried
    left
    simp only [rank, h, Turn.state_yield]
    simp only [rank, tried, settings] at hrank ⊢
    omega
  | rejected e h hard below =>
    have hrank := rank_disconnected ch.tried.rejectedOnce
    left
    simp only [rank, h, Turn.state_again]
    simp only [rank, tried, rejectedOnce, settings] at hrank ⊢
    omega
  | givenUp e h hard limit =>
    left
    simp only [rank, h, Turn.state_yield]
    omega
  | event id line answer item h announced found =>
    right
    refine ⟨rfl, id, line, _, h, rfl, ?_⟩
    intro e he
    rw [List.mem_singleton.mp he]
    rfl
  | lookUpFailed id line answer e h announced failed =>
    left
    simp only [rank, h.1, fail, Turn.state_yield]
    omega
  | noise id line h silent =>
    right
    exact ⟨rfl, id, line, [], h, rfl, fun e he => absurd he List.not_mem_nil⟩
  | streamless h =>
    have hrank := rank_disconnected ch
    left
    simp only [rank, h, Turn.state_again] at hrank ⊢
    omega
  | closed _ h | broken _ _ h _ =>
    have hrank := rank_disconnected ch
    left
    simp only [rank, h.1, Turn.state_again] at hrank ⊢
    omega
  | unreadable id e h hard =>
    left
    simp only [rank, h.1, fail, Turn.state_yield]
    omega
  | rested h =>
    left
    simp only [rank, h, Turn.state_again, settings]
    omega
  | ended h => exact absurd h hopen

section Surrounded

variable {ω : Type} {S : Surroundings ω} {w v u : ω}

/-- The stream that is open runs dry. -/
def Dry (S : Surroundings ω) (ch : WatchChannel) (w : ω) : Prop :=
  ∀ id, ch.Streams id → S.RunsDry id w

theorem Dry.sends (h : Dry S ch w) (sends : Relation.ReflTransGen S.Sends w v) : Dry S ch v :=
  fun id hid => (h id hid).sends sends

/-- A step either goes down to a channel whose stream runs dry, or takes a line. -/
theorem Step.pays (hs : Step ch t o) (ends : S.StreamsEnd) (hopen : ¬ ch.IsOver)
    (answers : S.Answers t w v) :
    o.state.rank < ch.rank ∧ Dry S o.state v ∨ o.state = ch ∧
      ∃ id m, ch.Streams id ∧ S.Brings id m w ∧
        Relation.ReflTransGen S.Sends m v := by
  rcases hs.descends hopen with hrank | ⟨hstate, id, line, asked, hid, rfl, hasked⟩
  · refine .inl ⟨hrank, ?_⟩
    intro id hid
    -- Only a new connection leaves a stream open, one that has just been opened.
    have hnone {ch' : WatchChannel} (h : ch'.state ≠ .streaming) (hid : ch'.Streams id) :
        S.RunsDry id v := absurd hid.1 h
    cases hs with
    | connected id' h =>
      obtain rfl : id' = id := Option.some.inj hid.2
      rcases answers with _ | ⟨here, ⟨⟩⟩
      exact ends _ _ _ _ here
    | lost | rejected | streamless | closed | broken =>
      exact hnone (disconnected_ne_streaming _) hid
    | event | noise => exact absurd hrank (Nat.lt_irrefl _)
    | ended h => exact absurd h hopen
    | givenUp | lookUpFailed | unreadable | rested => exact hnone (by simp [fail]) hid
  · rcases answers with _ | ⟨here, rest⟩
    have hsends := Surroundings.sends_of_answers hasked rest
    exact .inr ⟨hstate, id, _, hid, ⟨w, line, .refl, here⟩, hsends⟩

/-- However a watch goes on, whatever requests are sent after its turns, it is over some time. -/
inductive Settles (S : Surroundings ω) : WatchChannel → ω → Prop
  | isOver {ch : WatchChannel} {w : ω} (h : ch.IsOver) : Settles S ch w
  | goesOn {ch : WatchChannel} {w : ω} (h : ¬ ch.IsOver)
      (later : ∀ t o v u, Step ch t o → S.Answers t w v → Relation.ReflTransGen S.Sends v u →
        Settles S o.state u) : Settles S ch w

theorem settles_of_dry (ends : S.StreamsEnd) (dry : Dry S ch w) : Settles S ch w := by
  -- On the rank, and while that stays the same, on what the open stream still delivers.
  induction hrank : ch.rank using Nat.strongRecOn generalizing ch w with
  | ind n ih =>
    subst hrank
    by_cases hover : ch.IsOver
    · exact .isOver hover
    · have hturn {w : ω} (hline : ∀ id m v, ch.Streams id → S.Brings id m w →
          Relation.ReflTransGen S.Sends m v → Settles S ch v) : Settles S ch w := by
        refine .goesOn hover ?_
        intro t o v u hs answers sends
        rcases hs.pays ends hover answers with ⟨hdown, hdry⟩ | ⟨hstate, id, m, hid, hm, hv⟩
        · exact ih _ hdown (hdry.sends sends) rfl
        · rw [hstate]
          exact hline id m u hid hm (hv.trans sends)
      -- The requests between two lines count as part of waiting for the second.
      have hlines {id : StreamId} (hid : ch.Streams id) {w : ω} (hw : S.RunsDry id w) :
          ∀ u, Relation.ReflTransGen S.Sends w u → Settles S ch u := by
        induction hw with
        | intro w _ ihw =>
          intro u hu
          apply hturn
          rintro id' m v hid' ⟨m', line, hm', hline⟩ hv
          obtain rfl : id' = id := Option.some.inj (hid'.2.symm.trans hid.2)
          exact ihw m ⟨m', line, hu.trans hm', hline⟩ v hv
      apply hturn
      intro id m v hid hm hv
      exact hlines hid ((dry id hid).inv hm) v hv

theorem settles_watch (ends : S.StreamsEnd) (t : Tracker) (w : ω) : Settles S t.watch w :=
  settles_of_dry ends fun _ h => nomatch h

theorem Settles.step (h : Settles S ch w) (hs : Step ch t o) (answers : S.Answers t w v) :
    Settles S o.state v := by
  cases h with
  | isOver h =>
    have ht := hs.follows
    rw [turn_over h] at ht
    obtain ⟨-, rfl⟩ := Dialogue.follows_done_iff.mp ht
    exact .isOver h
  | goesOn hopen later => exact later t o v v hs answers .refl

theorem Settles.takes {happened : Tracker.Course} {ch' : WatchChannel} (h : Settles S ch w)
    (taken : S.Takes turn ch w happened ch' v) : Settles S ch' v := by
  obtain ⟨run, answers⟩ := taken
  induction run using Run.induction_on_turns generalizing w with
  | refl ch =>
    cases answers
    exact h
  | step ch t o rest ch' here later ih =>
    rw [exchanges_append, exchanges_happenings] at answers
    obtain ⟨m, ht, hrest⟩ := Surroundings.answers_append_iff.mp answers
    exact ih (h.step (step_of_follows here) ht) hrest

/-- Every call comes to a result. -/
theorem Settles.returns (h : Settles S ch w) : ∃ a v, S.Returns turn ch w a v := by
  induction h with
  | @isOver ch w h =>
    have hhold : S.hold ch.turn w = (.yield (.ok none) ch, w) := by
      rw [turn_over h, Surroundings.hold_done]
    exact ⟨.ok none, w, .yield hhold⟩
  | @goesOn ch w hopen later ih =>
    obtain ⟨t, o, v, ht, answers, hhold⟩ := S.exists_turn turn ch w
    cases o with
    | again ch' =>
      obtain ⟨a, v', hreturns⟩ := ih t _ v v (step_of_follows ht) answers .refl
      exact ⟨a, v', .again hhold hreturns⟩
    | yield a ch' => exact ⟨a, v, .yield hhold⟩

/-! ### What is told -/

/-- The lines that arrived. -/
def delivered (happened : Tracker.Course) : Nat := (exchanges happened).countP Exchange.isLine

theorem delivered_append (happened more : Tracker.Course) :
    delivered (happened ++ more) = delivered happened + delivered more := by
  simp only [delivered, exchanges_append, List.countP_append]

/-- A stream that is open was paid for by its connection, and may still tell one failure. -/
def credit (ch : WatchChannel) : Nat :=
  match ch.state with
  | .streaming => 1
  | _ => 0

theorem Step.yields_le (hs : Step ch t o) (hopen : ¬ ch.IsOver) :
    o.yields.length + o.state.credit ≤
      delivered (o.happenings t) + connections (o.happenings t) + ch.credit := by
  have hdisconnected (ch : WatchChannel) : ch.disconnected.credit = 0 := by
    rcases disconnected_state ch with ⟨h, -⟩ | ⟨h, -⟩ <;> simp only [credit, h]
  rw [delivered, connections, exchanges_happenings]
  -- Told, credit after the step, lines, connections, credit before it.
  cases hs with
  | connected id h =>
    change 0 + 1 ≤ 0 + 1 + ch.credit
    omega
  | lost e h transient =>
    rw [Turn.state_yield, hdisconnected]
    change 1 + 0 ≤ 0 + 1 + ch.credit
    omega
  | rejected e h hard below =>
    rw [Turn.state_again, hdisconnected]
    change 0 + 0 ≤ 0 + 1 + ch.credit
    omega
  | givenUp e h hard limit =>
    change 1 + 0 ≤ 0 + 1 + ch.credit
    omega
  | event id line answer item h announced found =>
    change 1 + ch.credit ≤ 1 + 0 + ch.credit
    omega
  | lookUpFailed id line answer e h announced failed =>
    change 1 + 0 ≤ 1 + 0 + ch.credit
    omega
  | noise id line h silent =>
    change 0 + ch.credit ≤ 1 + 0 + ch.credit
    omega
  | streamless | closed | broken =>
    rw [Turn.state_again, hdisconnected]
    change 0 + 0 ≤ 0 + 0 + ch.credit
    omega
  | unreadable id e h hard =>
    have hcredit : ch.credit = 1 := by simp only [credit, h.1]
    rw [hcredit]
    exact Nat.le_refl 1
  | rested h =>
    change 0 + 0 ≤ 0 + 0 + ch.credit
    omega
  | ended h => exact absurd h hopen

theorem Step.untold (hs : Step ch t o) (hopen : ¬ ch.IsOver) : .ok none ∉ o.yields := by
  cases hs with
  | ended h => exact absurd h hopen
  | _ => simp

/-- Whatever is told before the end is paid for by a line or by a connection. -/
theorem Settles.ends (h : Settles S ch w) : ∃ happened, S.Ends turn ch w happened ∧
    (yields happened).length ≤ delivered happened + connections happened + ch.credit := by
  induction h with
  | @isOver ch w h =>
    have ht : ch.turn.Follows [] (.yield (.ok none) ch) := by
      rw [turn_over h]
      exact .done _
    exact ⟨[], .last ht (.nil w), Nat.zero_le _⟩
  | @goesOn ch w hopen later ih =>
    obtain ⟨t, o, v, ht, answers, -⟩ := S.exists_turn turn ch w
    have hs := step_of_follows ht
    obtain ⟨rest, hrest, hle⟩ := ih t o v v hs answers .refl
    refine ⟨_, .step ht answers (hs.untold hopen) hrest, ?_⟩
    have hstep := hs.yields_le hopen
    rw [yields_append, yields_happenings, List.length_append, delivered_append, connections_append]
    omega

end Surrounded

end WatchChannel

section Surrounded

variable {ω : Type} {S : Surroundings ω} {w v : ω}

/-! ### What is built on a watch -/

theorem StartWait.turn_over {w : StartWait} (h : w.channel.IsOver) :
    w.turn = .done (.yield (.ok none) w) := by
  simp only [turn, WatchChannel.turn_over h]
  rfl

/-- A turn of a wait is one of its watch, after which at most requests are sent. -/
theorem StartWait.Step.of_channel {w : StartWait} {t : List Exchange} {o : StartWait.Outcome}
    (hs : Step w t o) : ∃ u c rest, t = u ++ rest ∧ WatchChannel.Step w.channel u c ∧
      o.state.channel = c.state ∧ ∀ e ∈ rest, e.isSent = true := by
  have hquiet {t : List Exchange} {c : WatchChannel.Outcome} (hc : w.channel.turn.Follows t c)
      (ho : o.state.channel = c.state) : ∃ u c rest, t = u ++ rest ∧
        WatchChannel.Step w.channel u c ∧ o.state.channel = c.state ∧ ∀ e ∈ rest, e.isSent = true :=
    ⟨t, c, [], (List.append_nil t).symm, WatchChannel.step_of_follows hc, ho,
      fun e he => absurd he List.not_mem_nil⟩
  have hexamine (w : StartWait) (s : Snapshot) : (w.examine s).state = w := by
    unfold examine
    split <;> rfl
  -- Only an unclear answer is asked about again, after the turn of the channel.
  cases hs with
  | silent h => exact hquiet h rfl
  | failed h => exact hquiet h rfl
  | exhausted h => exact hquiet h rfl
  | @shown _ s ch h => exact hquiet h (congrArg channel (hexamine ⟨ch⟩ s))
  | @doubted t item ch answer doubtful h =>
    refine ⟨t, _, _, rfl, WatchChannel.step_of_follows h, ?_, ?_⟩
    · rcases answer.bind (Response.snapshot? ch.target.kind) with e | _ | s
      · simp only [rechecked]
        split <;> rfl
      · rfl
      · exact congrArg channel (hexamine ⟨ch⟩ s)
    · intro e he
      rw [List.mem_singleton.mp he]
      rfl

theorem StartWait.returns_of_settles {ch : WatchChannel} (h : ch.Settles S w) :
    ∃ a v, S.Returns StartWait.turn ⟨ch⟩ w a v := by
  induction h with
  | @isOver ch w h =>
    have hhold : S.hold (turn ⟨ch⟩) w = (.yield (.ok none) ⟨ch⟩, w) := by
      rw [turn_over h, Surroundings.hold_done]
    exact ⟨.ok none, w, .yield hhold⟩
  | @goesOn ch w hopen later ih =>
    obtain ⟨t, o, v, ht, answers, hhold⟩ := S.exists_turn turn ⟨ch⟩ w
    cases o with
    | again wait =>
      obtain ⟨u, c, rest, rfl, hc, hstate, hrest⟩ := (step_of_follows ht).of_channel
      obtain ⟨m, hu, hsent⟩ := Surroundings.answers_append_iff.mp answers
      obtain ⟨a, v', hreturns⟩ := ih u c m v hc hu (Surroundings.sends_of_answers hrest hsent)
      rw [← hstate] at hreturns
      exact ⟨a, v', .again hhold hreturns⟩
    | yield a wait => exact ⟨a, v, .yield hhold⟩

theorem ChildWatch.ends_of_settles {ch : WatchChannel} (h : ch.Settles S w) (c : ChildWatch)
    (hch : c.channel = ch) : ∃ happened, S.Ends ChildWatch.turn c w happened := by
  have hlast {c : ChildWatch} {w : ω} (h : c.finished = true ∨ c.channel.IsOver) :
      ∃ happened, S.Ends ChildWatch.turn c w happened := by
    obtain ⟨c', hturn, -⟩ := turn_over h
    have ht : c.turn.Follows [] (.yield (.ok none) c') := by
      rw [hturn]
      exact .done _
    exact ⟨[], .last ht (.nil w)⟩
  induction h generalizing c with
  | isOver h => exact hlast (.inr (hch ▸ h))
  | @goesOn ch w hopen later ih =>
    subst hch
    cases hfinished : c.finished with
    | true => exact hlast (.inl hfinished)
    | false =>
      obtain ⟨t, o, v, ht, answers, -⟩ := S.exists_turn turn c w
      obtain ⟨o', hc, rfl⟩ := (follows_turn_iff hfinished).mp ht
      have hlater := ih t o' v v (WatchChannel.step_of_follows hc) answers .refl _
        (channel_after c o')
      exact Surroundings.Ends.of_turn ht answers hlater

/-- Where every stream that is opened runs dry, every call of a watch comes to a result, and the end
is told to one of the first calls: there are no more of them than lines and connections, but for the
last. So a wait for a start comes to a result, and a discovery to its end. -/
theorem Tracker.watching_ends (S : Surroundings ω) (ends : S.StreamsEnd) (t : Tracker) (w : ω) :
    (∀ happened ch v, S.Takes WatchChannel.turn t.watch w happened ch v →
      ∃ a v', S.Returns WatchChannel.turn ch v a v') ∧
    (∃ happened, S.Ends WatchChannel.turn t.watch w happened ∧ (yields happened).length + 1 ≤
      WatchChannel.delivered happened + WatchChannel.connections happened + 1) ∧
    (∃ a v, S.Returns StartWait.turn t.waitForStart w a v) ∧
    ∀ p : PipelineRun, ∃ happened, S.Ends ChildWatch.turn p.watchNewChildren w happened := by
  have hsettles := WatchChannel.settles_watch ends
  refine ⟨?_, ?_, StartWait.returns_of_settles (hsettles t w), ?_⟩
  · intro happened ch v taken
    exact ((hsettles t w).takes taken).returns
  · obtain ⟨happened, hends, hle⟩ := (hsettles t w).ends
    have hcredit : t.watch.credit = 0 := rfl
    exact ⟨happened, hends, by omega⟩
  · intro p
    exact ChildWatch.ends_of_settles (hsettles p.tracker w) p.watchNewChildren rfl

end Surrounded

/-! A server brings two events on every stream, and nothing is allowed to last. -/

def hasty : Tracker where
  config := {
    apiUrl := "https://api.example.test"
    «namespace» := "ns"
    watch := { maxAttempts := 0, maxBadResponses := 0, retryDelay := 0 } }
  kind := .pipelineRun
  name := "run"

/-- The state is the number of lines that are left. -/
def trickle : Surroundings Nat where
  answer
    | .send _, left => (.ok ⟨404, ""⟩, left)
    | .openStream _, _ => (.ok 0, 2)
    | .readLine _, 0 => (.ok none, 0)
    | .readLine _, left + 1 => (.ok (some StartWait.restoredNotice), left)
    | .sleep _, left => ((), left)
    | .now, left => (0, left)

theorem trickle_runsDry (id : StreamId) (left : Nat) : trickle.RunsDry id left := by
  have hsends {w v : Nat} (h : Relation.ReflTransGen trickle.Sends w v) : v = w := by
    induction h with
    | refl => rfl
    | tail _ hsend ih =>
      obtain ⟨r, rfl⟩ := hsend
      exact ih
  induction left with
  | zero =>
    apply Acc.intro
    rintro v ⟨u, line, hu, hline⟩
    cases hsends hu
    cases hline
  | succ left ih =>
    apply Acc.intro
    rintro v ⟨u, line, hu, hline⟩
    cases hsends hu
    cases hline
    exact ih

theorem Tracker.watching_ends_hasty : trickle.StreamsEnd ∧
    (∃ happened, trickle.Ends WatchChannel.turn hasty.watch 0 happened ∧
      (yields happened).length + 1 ≤
        WatchChannel.delivered happened + WatchChannel.connections happened + 1) ∧
    ∃ a v, trickle.Returns StartWait.turn hasty.waitForStart 0 a v := by
  have hends : trickle.StreamsEnd := fun _ id _ left _ => trickle_runsDry id left
  obtain ⟨-, hwatch, hstart, -⟩ := Tracker.watching_ends trickle hends hasty 0
  exact ⟨hends, hwatch, hstart⟩

end PipelineObserver
