import PipelineObserver.Proofs.Runs
import PipelineObserver.Proofs.Surroundings
import PipelineObserver.Proofs.Watch.Channel
import PipelineObserver.Tracker.PipelineRun
import PipelineObserver.Tracker.StartWait
/-!
Two servers whose watch streams say different things. As long as a line of one is an event just when
the line of the other is, no activity that watches tells the servers apart: `events_only_trigger`.
-/
namespace PipelineObserver

variable {ω ω' α β σ : Type}

/-! ### Lines -/

/-- Both lines are events, or none of them is. -/
def AlikeLines (line line' : String) : Prop :=
  (WatchEvent.ofLine line).isOk = (WatchEvent.ofLine line').isOk

theorem Text.begins_no_token {c : Char} (h : isBlank c = true) (hjson : Json.isBlank c = false) :
    c ≠ '"' ∧ ¬ (c.isDigit = true ∨ c = '-') ∧ c.isAlpha = false ∧
      Json.Token.ofPunctuation? c = none := by
  have hnat : c.toNat = c.val.toNat := rfl
  have hranges : (0x9 ≤ c.toNat ∧ c.toNat ≤ 0xD) ∨ c.toNat = 0x20 ∨ 0x85 ≤ c.toNat := by
    simp only [isBlank, Bool.or_eq_true, Bool.and_eq_true, decide_eq_true_eq, beq_iff_eq] at h
    omega
  have hspace : c.toNat ≠ 0x20 := by
    intro hc
    obtain rfl : c = ' ' := Char.toNat_inj.mp hc
    simp [Json.isBlank] at hjson
  -- What begins a token lies between the space and the first blank beyond ASCII.
  have hother {d : Char} (hd : 0x20 < d.toNat ∧ d.toNat < 0x85) : c ≠ d := by
    rintro rfl
    omega
  refine ⟨hother (by decide), ?_, ?_, ?_⟩
  · rintro (hdigit | hminus)
    · simp [Char.isDigit, UInt32.le_iff_toNat_le] at hdigit
      omega
    · exact hother (by decide) hminus
  · rw [← Bool.not_eq_true]
    intro halpha
    have hletter : (decide (c.val ≥ 65 ∧ c.val ≤ 90) || (c.val ≥ 97 && c.val ≤ 122)) = true :=
      halpha
    simp [UInt32.le_iff_toNat_le] at hletter
    omega
  · unfold Json.Token.ofPunctuation?
    split
    case h_7 => rfl
    all_goals exact absurd rfl (hother (by decide))

theorem Text.scan_blank {cs : List Char} (h : cs.all isBlank = true) :
    Json.Token.scan? [] cs = some [] ∨ Json.Token.scan? [] cs = none := by
  induction cs with
  | nil => exact .inl (by simp [Json.Token.scan?])
  | cons c rest ih =>
    rw [List.all_cons, Bool.and_eq_true] at h
    rw [Json.Token.scan?]
    cases hjson : Json.isBlank c with
    | true => simpa using ih h.2
    | false =>
      obtain ⟨hquote, hnumber, hword, hpunctuation⟩ := begins_no_token h.1 hjson
      right
      simp [hquote, hnumber, hword, hpunctuation]

theorem WatchEvent.ofLine_blank {line : String} (h : Text.isAllBlank line = true) :
    (WatchEvent.ofLine line).isOk = false := by
  have htree : Json.Tree.ofString? line = none := by
    unfold Json.Tree.ofString? Json.Token.ofString?
    rcases Text.scan_blank h with hscan | hscan
    · rw [hscan]
      rfl
    · rw [hscan]
      rfl
  unfold WatchEvent.ofLine
  rw [htree]
  rfl

theorem WatchChannel.announces_eq (line : String) :
    announces line = (WatchEvent.ofLine line).isOk := by
  unfold announces
  cases h : Text.isAllBlank line with
  | true => rw [WatchEvent.ofLine_blank h, Bool.and_false]
  | false => rw [Bool.not_false, Bool.true_and]

theorem AlikeLines.announces_eq {line line' : String} (h : AlikeLines line line') :
    WatchChannel.announces line = WatchChannel.announces line' := by
  rw [WatchChannel.announces_eq, WatchChannel.announces_eq]
  exact h

/-! ### Dialogues that do not tell alike answers apart -/

/-- Two answers to a question that differ at most in what a line says. -/
inductive Question.Alike : (q : Question) → q.Answer → q.Answer → Prop
  | same (q : Question) (answer : q.Answer) : Alike q answer answer
  | line (stream : StreamId) {line line' : String} (h : AlikeLines line line') :
      Alike (.readLine stream) (.ok (some line)) (.ok (some line'))

namespace Dialogue

/-- Alike answers are followed by the same, all through the dialogue. -/
inductive Blind : Dialogue α → Prop
  | done (a : α) : Blind (.done a)
  | ask {q : Question} {next : q.Answer → Dialogue α}
      (same : ∀ answer answer', q.Alike answer answer' → next answer = next answer')
      (blind : ∀ answer, Blind (next answer)) : Blind (.ask q next)

theorem Blind.bind {d : Dialogue α} {f : α → Dialogue β} (h : d.Blind) (hf : ∀ a, (f a).Blind) :
    (d.bind f).Blind := by
  induction h with
  | done a => exact hf a
  | ask same _ ih =>
    apply Blind.ask
    · intro answer answer' halike
      rw [same answer answer' halike]
    · exact ih

theorem Blind.ask_other {q : Question} {next : q.Answer → Dialogue α}
    (h : ∀ stream, q ≠ .readLine stream) (blind : ∀ answer, (next answer).Blind) :
    (Dialogue.ask q next).Blind := by
  apply Blind.ask _ blind
  intro answer answer' halike
  cases halike with
  | same => rfl
  | line stream _ => exact absurd rfl (h stream)

end Dialogue

theorem Tracker.snapshot_blind (t : Tracker) : t.snapshot.run.Blind := by
  rw [snapshot_run]
  exact .ask_other (fun _ => nofun) fun answer => .done _

theorem WatchChannel.received_blind (ch : WatchChannel) (answer : Except Failure (Option String)) :
    (ch.received answer).Blind := by
  rcases answer with e | _ | line
  · exact .done _
  · exact .done _
  · unfold received
    dsimp only
    split
    · exact .ask_other (fun _ => nofun) fun answer => .done _
    · exact .done _

theorem WatchChannel.turn_blind (ch : WatchChannel) : ch.turn.Blind := by
  cases h : ch.state with
  | connecting =>
    rw [turn_connecting h]
    exact .ask_other (fun _ => nofun) fun answer => .done _
  | streaming =>
    cases hstream : ch.stream with
    | none =>
      rw [turn_streamless h hstream]
      exact .done _
    | some id =>
      rw [turn_streaming ⟨h, hstream⟩]
      apply Dialogue.Blind.ask _ ch.received_blind
      intro answer answer' halike
      cases halike with
      | same => rfl
      | line _ hlines =>
        -- All that is asked of a line is whether it is an event.
        dsimp only [received]
        rw [hlines.announces_eq]
  | backoff =>
    rw [turn_backoff h]
    exact .ask_other (fun _ => nofun) fun answer => .done _
  | exhausted =>
    rw [turn_over (.inl h)]
    exact .done _
  | failed =>
    rw [turn_over (.inr h)]
    exact .done _

theorem StartWait.turn_blind (w : StartWait) : w.turn.Blind := by
  apply Dialogue.Blind.bind w.channel.turn_blind
  have hrecheck (ch : WatchChannel) :
      (ch.target.snapshot.run.bind fun found => .done (rechecked ⟨ch⟩ found)).Blind :=
    ch.target.snapshot_blind.bind fun found => .done _
  rintro (ch | ⟨e | _ | s | _ | _, ch⟩)
  case yield.ok.some.absent => exact hrecheck ch
  case yield.ok.some.unknown => exact hrecheck ch
  all_goals exact .done _

theorem ChildWatch.turn_blind (w : ChildWatch) : w.turn.Blind := by
  unfold turn
  split
  · exact .done _
  · apply Dialogue.Blind.bind w.channel.turn_blind
    rintro (ch | ⟨e | _ | s | _ | _, ch⟩)
    all_goals exact .done _

/-! ### Two servers -/

/-- Surroundings that tell the time. -/
structure TimedSurroundings (ω : Type) extends Surroundings ω where
  time : ω → Nat

/-- What a consumer does with an activity: it has it take a turn, or waits. -/
inductive Move where
  | turn
  | pause (duration : Nat)

/-- All that is seen of a turn: what is asked and when, what the turn comes to, which includes the
state of the activity after it, and when it does. -/
structure Sight (σ α : Type) where
  asked : List (Question × Nat)
  outcome : Turn σ α
  time : Nat

namespace TimedSurroundings

variable (S : TimedSurroundings ω) (S' : TimedSurroundings ω')

/-- The questions of a dialogue, each with the time at which it is asked. -/
def asked : Dialogue α → ω → List (Question × Nat)
  | .done _, _ => []
  | .ask q next, w => (q, S.time w) :: asked (next (S.answer q w).1) (S.answer q w).2

/-- What is seen of an activity while its consumer makes some moves. -/
def observe (turn : σ → Dialogue (Turn σ α)) : List Move → σ → ω → List (Sight σ α)
  | [], _, _ => []
  | .pause duration :: moves, s, w => observe turn moves s (S.answer (.sleep duration) w).2
  | .turn :: moves, s, w =>
    let held := S.hold (turn s) w
    ⟨S.asked (turn s) w, held.1, S.time held.2⟩ :: observe turn moves held.1.state held.2

/-- Two servers that go through corresponding states at the same times, and whose answers differ at
most in what a line says. -/
structure Alike (R : ω → ω' → Prop) : Prop where
  answers : ∀ (q : Question) {w w'}, R w w' → q.Alike (S.answer q w).1 (S'.answer q w').1
  states : ∀ (q : Question) {w w'}, R w w' → R (S.answer q w).2 (S'.answer q w').2
  times : ∀ {w w'}, R w w' → S.time w = S'.time w'

variable {S : TimedSurroundings ω} {S' : TimedSurroundings ω'} {R : ω → ω' → Prop} {w : ω} {w' : ω'}

theorem Alike.hold (h : S.Alike S' R) (hw : R w w') {d : Dialogue α} (blind : d.Blind) :
    (S.hold d w).1 = (S'.hold d w').1 ∧ R (S.hold d w).2 (S'.hold d w').2 ∧
      S.asked d w = S'.asked d w' := by
  induction blind generalizing w w' with
  | done a => exact ⟨rfl, hw, rfl⟩
  | @ask q next same _ ih =>
    have hnext := same _ _ (h.answers q hw)
    obtain ⟨hresult, hstate, hasked⟩ := ih (S.answer q w).1 (h.states q hw)
    rw [hnext] at hresult hstate hasked
    refine ⟨?_, ?_, ?_⟩
    · rw [Surroundings.hold_ask, Surroundings.hold_ask, hnext]
      exact hresult
    · rw [Surroundings.hold_ask, Surroundings.hold_ask, hnext]
      exact hstate
    · rw [asked, asked, h.times hw, hnext, hasked]

theorem Alike.observe (h : S.Alike S' R) {turn : σ → Dialogue (Turn σ α)}
    (blind : ∀ s, (turn s).Blind) (moves : List Move) (s : σ) (hw : R w w') :
    S.observe turn moves s w = S'.observe turn moves s w' := by
  induction moves generalizing s w w' with
  | nil => rfl
  | cons move moves ih =>
    cases move with
    | pause duration => exact ih s (h.states (.sleep duration) hw)
    | turn =>
      obtain ⟨houtcome, hstate, hasked⟩ := h.hold hw (blind s)
      have hlater := ih (S.hold (turn s) w).1.state hstate
      have htime := h.times hstate
      rw [TimedSurroundings.observe, TimedSurroundings.observe, hasked, htime, hlater, houtcome]

end TimedSurroundings

/-- Events are triggers only. Against two servers that differ in nothing but what the lines of their
watches say, where a line of one is an event just when the line of the other is, watches, waits for a
start and discoveries of task runs ask the same at the same times, yield the same and go through the
same states, from any state on and whatever their consumers do. -/
theorem events_only_trigger {S : TimedSurroundings ω} {S' : TimedSurroundings ω'}
    {R : ω → ω' → Prop} (h : S.Alike S' R) {w : ω} {w' : ω'} (hw : R w w') (moves : List Move) :
    (∀ ch : WatchChannel, S.observe WatchChannel.turn moves ch w =
      S'.observe WatchChannel.turn moves ch w') ∧
    (∀ wait : StartWait, S.observe StartWait.turn moves wait w =
      S'.observe StartWait.turn moves wait w') ∧
    ∀ discovery : ChildWatch, S.observe ChildWatch.turn moves discovery w =
      S'.observe ChildWatch.turn moves discovery w' := by
  refine ⟨?_, ?_, ?_⟩
  · intro ch
    exact h.observe WatchChannel.turn_blind moves ch hw
  · intro wait
    exact h.observe StartWait.turn_blind moves wait hw
  · intro discovery
    exact h.observe ChildWatch.turn_blind moves discovery hw

/-! The news of a resource that was added, and forged news of its deletion. -/

def startingTask : Tracker :=
  ⟨{ apiUrl := "https://api.example.test", «namespace» := "ns" }, .taskRun, "build"⟩

def addedLine : String := "\x7b\"type\":\"ADDED\",\"object\":\x7b\x7d\x7d"

def forgedLine : String :=
  "\x7b\"type\":\"DELETED\",\"object\":\x7b\"status\":\x7b\"podName\":\"other\"\x7d\x7d\x7d"

/-- A server that repeats one line on every watch, and whose resource has started. -/
def repeating (line : String) : TimedSurroundings Nat where
  answer
    | .send _, time =>
      (.ok ⟨200, "\x7b\"status\":\x7b\"conditions\":[\x7b\"status\":\"True\"\x7d]\x7d\x7d"⟩, time + 20)
    | .openStream _, time => (.ok 0, time + 30)
    | .readLine _, time => (.ok (some line), time + 1000)
    | .sleep duration, time => ((), time + duration)
    | .now, time => (time, time)
  time := id

theorem repeating_alike {line line' : String} (h : AlikeLines line line') :
    (repeating line).Alike (repeating line') Eq where
  answers := by
    rintro q time _ rfl
    cases q with
    | readLine stream => exact .line stream h
    | _ => exact .same _ _
  states := by
    rintro q time _ rfl
    cases q <;> rfl
  times := by
    rintro time _ rfl
    rfl

theorem events_only_trigger_forged :
    (WatchEvent.ofLine addedLine).toOption.map (·.kind) = some .added ∧
      (WatchEvent.ofLine forgedLine).toOption.map (·.kind) = some .deleted ∧
      (repeating addedLine).Alike (repeating forgedLine) Eq ∧
      (repeating addedLine).observe StartWait.turn [.turn, .pause 5, .turn]
          startingTask.waitForStart 0 =
        (repeating forgedLine).observe StartWait.turn [.turn, .pause 5, .turn]
          startingTask.waitForStart 0 := by
  have hlines : AlikeLines addedLine forgedLine := by
    unfold AlikeLines
    decide +kernel
  have halike := repeating_alike hlines
  exact ⟨by decide +kernel, by decide +kernel, halike,
    (events_only_trigger halike rfl [.turn, .pause 5, .turn]).2.1 startingTask.waitForStart⟩

end PipelineObserver
