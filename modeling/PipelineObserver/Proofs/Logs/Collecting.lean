import PipelineObserver.Logs.Output
import PipelineObserver.Proofs.Http.Chunks
import PipelineObserver.Proofs.Logs.Following
/-!
The text of logs is the same whether they are followed, line by line, or fetched as a whole, if the
server delivers the lines of the same texts in either way: `same_text_in_either_way`.
-/
namespace PipelineObserver

/-! ### Texts and their lines -/

namespace Http

/-- The bytes are lines, each of which ends in a line feed that does not follow a carriage return.
-/
structure InLines (bytes : List UInt8) : Prop where
  ended : ∀ b, bytes.getLast? = some b → b = lineFeed
  unreturned : ¬ [carriageReturn, lineFeed] <:+: bytes

theorem withoutReturn_eq {piece after : List UInt8}
    (h : ¬ [carriageReturn, lineFeed] <:+: piece ++ lineFeed :: after) :
    withoutReturn piece = piece := by
  refine if_neg fun hlast => h ?_
  obtain ⟨front, rfl⟩ := List.getLast?_eq_some_iff.mp hlast
  exact ⟨front, after, by simp⟩

/-- Nothing of such bytes is lost in their lines but the line feeds. -/
theorem linesOf_inLines {bytes : List UInt8} (h : InLines bytes) :
    (linesOf bytes).flatMap (· ++ [lineFeed]) = bytes := by
  by_cases hfeed : lineFeed ∈ bytes
  · obtain ⟨piece, after, rfl, hpiece⟩ := List.eq_append_cons_of_mem hfeed
    have hafter : InLines after := by
      refine ⟨fun b hb => h.ended b ?_, fun hinfix => h.unreturned ?_⟩
      · rw [List.getLast?_append, List.getLast?_cons, hb]
        rfl
      · exact hinfix.trans ⟨piece ++ [lineFeed], [], by simp⟩
    have hshorter : after.length < (piece ++ lineFeed :: after).length := by
      simp only [List.length_append, List.length_cons]
      omega
    rw [linesOf_of_piece hpiece, withoutReturn_eq h.unreturned, List.flatMap_cons,
      linesOf_inLines hafter, List.append_assoc]
    rfl
  · have hnil : bytes = [] := by
      -- The last byte, if there is one, is a line feed.
      rcases List.eq_nil_or_concat bytes with hnil | ⟨front, b, hconcat⟩
      · exact hnil
      · have hb := h.ended b (by simp [hconcat])
        simp [hconcat, hb] at hfeed
    rw [hnil]
    rfl
termination_by bytes.length

theorem spelling_append (s t : String) : spelling (s ++ t) = spelling s ++ spelling t := by
  simp [spelling]

theorem spelling_injective {s t : String} (h : spelling s = spelling t) : s = t :=
  String.toByteArray_inj.mp (ByteArray.ext (Array.toList_inj.mp h))

theorem spelling_join (lines : List String) : spelling (String.join (lines.map (· ++ "\n"))) =
    (lines.map spelling).flatMap (· ++ [lineFeed]) := by
  induction lines with
  | nil => rfl
  | cons line lines ih =>
    rw [List.map_cons, String.join_cons, spelling_append, spelling_append, ih, List.map_cons,
      List.flatMap_cons]
    rfl

/-- The lines that are told of a text, put together again. -/
theorem join_lines {text : String} (h : InLines (spelling text)) {lines : List String}
    (told : lines.map spelling = linesOf (spelling text)) :
    String.join (lines.map (· ++ "\n")) = text := by
  apply spelling_injective
  rw [spelling_join, told, linesOf_inLines h]

end Http

/-! ### Surroundings that host a pod -/

namespace Surroundings

variable {ω : Type} (S : Surroundings ω)

/-- A stream delivers some lines and is closed soon after the last of them, or after the given time
if there is none. -/
inductive Delivers (soon : Nat) (id : StreamId) : Nat → ω → List String → Prop
  | line {last time : Nat} {w w' w'' : ω} {text : String} {lines : List String}
      (here : S.answer (.readLine id) w = (.ok (some text), w'))
      (now : S.answer .now w' = (time, w'')) (rest : Delivers soon id time w'' lines) :
      Delivers soon id last w (text :: lines)
  | closed {last time : Nat} {w w' w'' : ω} (here : S.answer (.readLine id) w = (.ok none, w'))
      (now : S.answer .now w' = (time, w'')) (short : time - last < soon) :
      Delivers soon id last w []

/-- What comes of reading logs and collecting the text. -/
inductive Collects (x : Client LogOutput) (w : ω) : Except Failure String → Prop
  | failed {e : Failure} {v : ω} (h : S.hold x.run w = (.error e, v)) : Collects x w (.error e)
  | told {output : LogOutput} {result : Except Failure String} {v v' : ω}
      (h : S.hold x.run w = (.ok output, v))
      (rest : S.Returns LogText.turn output.intoText v result v') : Collects x w result

variable {S} in
theorem Collects.unique {x : Client LogOutput} {w : ω} {result other : Except Failure String}
    (h : S.Collects x w result) (h' : S.Collects x w other) : result = other := by
  cases h with
  | failed h =>
    cases h' with
    | failed h' =>
      cases h.symm.trans h'
      rfl
    | told h' _ => cases h.symm.trans h'
  | told h rest =>
    cases h' with
    | failed h' => cases h.symm.trans h'
    | told h' rest' =>
      cases h.symm.trans h'
      exact (rest.unique rest').1

end Surroundings

section Hosts

variable {ω : Type}

/-- The surroundings host a started pod, in all their states: it is seen to have started, and the
log of each container is the same text, whether it is fetched as a whole or followed. -/
structure PodLogs.Hosted (l : PodLogs) (S : Surroundings ω) (P : ω → Prop)
    (text : Option String → String) : Prop where
  stays : S.Stays P
  started : ∀ w, P w → ∃ s v, S.Returns StartWait.turn
    (Tracker.waitForStart ⟨l.config, .pod, l.pod⟩) w (.ok (some s)) v
  inLines : ∀ c ∈ logSources l.containers, Http.InLines (Http.spelling (text c))
  whole : ∀ c ∈ logSources l.containers, ∀ w, P w → ∃ r v,
    S.answer (.send (l.request c)) w = (.ok r, v) ∧ r.isSuccess = true ∧ r.body = text c
  followed : ∀ c ∈ logSources l.containers, ∀ w time w', P w → S.answer .now w = (time, w') →
    ∃ id v lines, S.answer (.openStream (l.config.followRequest l.pod c none)) w' = (.ok id, v) ∧
      lines.map Http.spelling = Http.linesOf (Http.spelling (text c)) ∧
      S.Delivers l.config.logs.minIdleTimeout id time v lines

/-- A snapshot of a task run names its pod and the containers of its steps. -/
def Snapshot.Names (s : Snapshot) (pod : String) (containers : List String) : Prop :=
  s.podReference = some pod ∧ s.stepContainers = containers

/-- The surroundings host a task run that has started with a pod, and that pod. -/
structure TaskRunLogs.Hosted (l : TaskRunLogs) (S : Surroundings ω) (P : ω → Prop)
    (pod : String) (containers : List String) (text : Option String → String) : Prop where
  hosted : PodLogs.Hosted ⟨l.config, pod, containers⟩ S P text
  started : ∀ w, P w → ∃ s v, S.Returns StartWait.turn l.tracker.waitForStart w (.ok (some s)) v ∧
    s.Names pod containers
  shown : ∀ w, P w → ∃ s v, S.hold l.tracker.snapshot.run w = (.ok (some s), v) ∧
    s.Names pod containers

end Hosts

/-! ### Fetching as a whole -/

section Whole

variable {ω : Type} {S : Surroundings ω} {P : ω → Prop} {text : Option String → String}
  {w : ω}

theorem PodLogs.Hosted.hold_fetchEach {l : PodLogs} (h : l.Hosted S P text)
    {sources : List (Option String)} (known : ∀ c ∈ sources, c ∈ logSources l.containers)
    (hw : P w) : ∃ logs v, S.hold (l.fetchEach sources).run w = (.ok logs, v) ∧
      SourceLog.joined logs = String.join (sources.map text) := by
  induction sources generalizing w with
  | nil => exact ⟨[], w, rfl, rfl⟩
  | cons c sources ih =>
    obtain ⟨hc, hsources⟩ := List.forall_mem_cons.mp known
    obtain ⟨r, v, hanswer, hsuccess, hbody⟩ := h.whole c hc w hw
    have hv : P v := by
      have hnext := h.stays (.send (l.request c)) w hw
      rwa [hanswer] at hnext
    obtain ⟨logs, v', hlogs, hjoined⟩ := ih hsources hv
    have hfetch : S.hold (l.fetch c).run w = (.ok ⟨c, r.body⟩, v) := by
      have hsend : S.hold (Client.send (l.request c)).run w = (.ok r, v) := hanswer
      have hchecked : r.checked = .ok r := if_pos hsuccess
      rw [PodLogs.fetch, S.hold_run_bind hsend, hchecked]
      rfl
    refine ⟨⟨c, r.body⟩ :: logs, v', ?_, ?_⟩
    · rw [PodLogs.fetchEach, S.hold_run_bind hfetch, S.hold_run_bind hlogs]
      rfl
    · rw [SourceLog.joined, List.map_cons, List.map_cons, String.join_cons, String.join_cons, hbody,
        ← hjoined]
      rfl

theorem PodLogs.Hosted.hold_fetchAll {l : PodLogs} (h : l.Hosted S P text) (hw : P w) :
    ∃ logs v, S.hold l.fetchAll.run w = (.ok logs, v) ∧
      SourceLog.joined logs = String.join ((logSources l.containers).map text) :=
  h.hold_fetchEach (fun _ hc => hc) hw

theorem TaskRunLogs.Hosted.hold_fetchAll {l : TaskRunLogs} {pod : String}
    {containers : List String} (h : l.Hosted S P pod containers text) (hw : P w) :
    ∃ logs v, S.hold l.fetchAll.run w = (.ok logs, v) ∧
      SourceLog.joined logs = String.join ((logSources containers).map text) := by
  obtain ⟨s, v, hsnapshot, hpod, rfl⟩ := h.shown w hw
  have hv : P v := by
    have hnext := h.hosted.stays.hold l.tracker.snapshot.run hw
    rwa [hsnapshot] at hnext
  obtain ⟨logs, v', hlogs, hjoined⟩ := h.hosted.hold_fetchAll hv
  refine ⟨logs, v', ?_, hjoined⟩
  rw [TaskRunLogs.fetchAll, S.hold_run_bind hsnapshot, ← hlogs]
  simp only [hpod]

end Whole

/-! ### Following -/

section Gate

variable {ω : Type} {S : Surroundings ω} {g : Gateway}

theorem Gateway.hold_turn (guards : g.Guards) {wait : StartWait} {w v : ω} {o : StartWait.Outcome}
    (here : S.hold wait.turn w = (o, v)) : S.hold (g.shut wait).turn w = (g.after wait o, v) := by
  rw [guards wait, S.hold_bind, here]
  rfl

theorem Gateway.drains_waiting (guards : g.Guards) {s : Snapshot} {next : LogLines}
    {items : List String}
    (goesOn : ∀ wait, wait.channel.target = g.tracker → g.next s wait = some next)
    {asked : List Exchange} {wait : StartWait} {w v : ω}
    {result : Except Failure (Option Snapshot)} (hresult : result = .ok (some s))
    (waiting : StartWait.Waiting g.tracker asked wait)
    (started : S.Returns StartWait.turn wait w result v)
    (rest : S.Drains LogLines.turn next v items) :
    S.Drains LogLines.turn (g.shut wait) w items := by
  induction started generalizing asked with
  | @again wait wait' w _ _ _ here _ ih =>
    obtain ⟨t, ht⟩ := S.follows_hold wait.turn w
    rw [here] at ht
    exact .again (hold_turn guards here) (ih hresult (waiting.again ht) rest)
  | @yield wait wait' w _ _ here =>
    obtain ⟨t, ht⟩ := S.follows_hold wait.turn w
    subst hresult
    rw [here] at ht
    have hafter : g.after wait (.yield (.ok (some s)) wait') = .again next := by
      rw [Gateway.after, goesOn wait' (waiting.target_turn ht)]
    exact .again (hafter ▸ hold_turn guards here) rest

/-- A gate is passed when the wait comes to a start. -/
theorem Gateway.drains (guards : g.Guards) {s : Snapshot} {next : LogLines} {items : List String}
    (goesOn : ∀ wait, wait.channel.target = g.tracker → g.next s wait = some next) {w v : ω}
    (started : S.Returns StartWait.turn g.tracker.waitForStart w (.ok (some s)) v)
    (rest : S.Drains LogLines.turn next v items) :
    S.Drains LogLines.turn (g.shut g.tracker.waitForStart) w items :=
  drains_waiting guards goesOn rfl (StartWait.waiting_start [] (by simp)) started rest

end Gate

section Followed

variable {ω : Type} {S : Surroundings ω} {P : ω → Prop} {text : Option String → String}
  {w : ω}

theorem Surroundings.hold_of_step {l : LogLines} {t : List Exchange} {o : LogLines.Outcome} {v : ω}
    (hs : LogLines.Step l t o) (answers : S.Answers t w v) : S.hold l.turn w = (o, v) :=
  Surroundings.hold_of_answers hs.follows answers

/-- The lines of an open stream are told, and then the source is done. -/
theorem Surroundings.Delivers.drains {l : LogLines} {pod : String} {c : LogCursor} {id : StreamId}
    {lines : List String} (more : l.finished = false) (gate : l.gate = .opened pod)
    (h : S.Delivers l.config.logs.minIdleTimeout id c.lastActivity w lines)
    (reading : c.stream = some id) (stays : S.Stays P) (hw : P w) :
    ∃ v, P v ∧ ∀ items, S.Drains LogLines.turn { l with cursor := none } v items →
      S.Drains LogLines.turn { l with cursor := some c } w (lines ++ items) := by
  generalize hlast : c.lastActivity = last at h
  induction h generalizing c with
  | @line last time w w' w'' text lines here now _ ih =>
    have hanswers : S.Answers [⟨.readLine id, .ok (some text)⟩, ⟨.now, time⟩] w w'' :=
      .cons here (.cons now (.nil w''))
    have hline : LogLines.Step { l with cursor := some c } _ _ :=
      .reads more gate (.line text time rfl reading)
    obtain ⟨v, hv, hrest⟩ :=
      ih (c := { c with lastActivity := time }) reading (stays.answers hanswers hw) rfl
    exact ⟨v, hv, fun items rest =>
      .item (Surroundings.hold_of_step hline hanswers) (hrest items rest)⟩
  | @closed last time w w' w'' here now short =>
    have hanswers : S.Answers [⟨.readLine id, .ok none⟩, ⟨.now, time⟩] w w'' :=
      .cons here (.cons now (.nil w''))
    have hclosed : LogLines.Step { l with cursor := some c } _ _ :=
      .reads more gate (.closed time rfl reading)
    have hdone : ({ l with cursor := some c } : LogLines).disconnected c time =
        { l with cursor := none } := if_pos (hlast ▸ short)
    rw [hdone] at hclosed
    exact ⟨w'', stays.answers hanswers hw, fun items rest =>
      .again (Surroundings.hold_of_step hclosed hanswers) rest⟩

/-- The sources are followed one after the other, and their lines make up their texts. -/
theorem PodLogs.Hosted.drains_reading {l : PodLogs} (h : l.Hosted S P text)
    {sources : List (Option String)} (known : ∀ c ∈ sources, c ∈ logSources l.containers)
    (hw : P w) : ∃ lines,
      S.Drains LogLines.turn (LogLines.reading l.config l.pod sources) w lines ∧
      String.join (lines.map (· ++ "\n")) = String.join (sources.map text) := by
  induction sources generalizing w with
  | nil =>
    have hdrained : LogLines.Step (LogLines.reading l.config l.pod []) _ _ :=
      .reads rfl rfl (.drained rfl rfl)
    exact ⟨[], .ended (Surroundings.hold_of_step hdrained (.nil w)), rfl⟩
  | cons c sources ih =>
    obtain ⟨hc, hsources⟩ := List.forall_mem_cons.mp known
    obtain ⟨taken, w', htaken⟩ : ∃ time w', S.answer .now w = (time, w') := ⟨_, _, rfl⟩
    obtain ⟨time, w'', hasked⟩ : ∃ time w'', S.answer .now w' = (time, w'') := ⟨_, _, rfl⟩
    have hw' : P w' := h.stays.answers (.cons htaken (.nil w')) hw
    obtain ⟨id, v, lines, hopened, htold, hdelivers⟩ := h.followed c hc w' time w'' hw' hasked
    have hanswers : S.Answers [⟨.now, time⟩,
        ⟨.openStream (l.config.followRequest l.pod c none), .ok id⟩] w' v :=
      .cons hasked (.cons hopened (.nil v))
    -- The source is taken, a stream is opened, and its lines are told.
    let rest := LogLines.reading l.config l.pod sources
    have htake : LogLines.Step (LogLines.reading l.config l.pod (c :: sources)) _
        (.again { rest with cursor := some { container := c, lastActivity := taken } }) :=
      .reads rfl rfl (.taken taken rfl rfl)
    have hopen : LogLines.Step
        { rest with cursor := some { container := c, lastActivity := taken } } _
        (.again { rest with
          cursor := some { container := c, stream := some id, lastActivity := time } }) :=
      .reads rfl rfl (.opened (c := { container := c, lastActivity := taken }) time id rfl rfl)
    rw [LogLines.request_eq] at hopen
    obtain ⟨v', hv', htell⟩ := Surroundings.Delivers.drains (l := rest)
      (c := { container := c, stream := some id, lastActivity := time })
      rfl rfl hdelivers rfl h.stays (h.stays.answers hanswers hw')
    obtain ⟨items, hitems, hjoined⟩ := ih hsources hv'
    refine ⟨lines ++ items, ?_, ?_⟩
    · exact .again (Surroundings.hold_of_step htake (.cons htaken (.nil w')))
        (.again (Surroundings.hold_of_step hopen hanswers) (htell items hitems))
    · rw [List.map_append, String.join_append, Http.join_lines (h.inLines c hc) htold, hjoined,
        List.map_cons, String.join_cons]

theorem PodLogs.Hosted.drains {l : PodLogs} (h : l.Hosted S P text) (hw : P w) : ∃ lines,
    S.Drains LogLines.turn l.stream w lines ∧
    String.join (lines.map (· ++ "\n")) = String.join ((logSources l.containers).map text) := by
  obtain ⟨s, v, hstarted⟩ := h.started w hw
  obtain ⟨lines, hlines, hjoined⟩ :=
    h.drains_reading (fun _ hc => hc) (h.stays.returns hstarted hw)
  exact ⟨lines, Gateway.drains l.guards (fun _ => l.gateway_next s) hstarted hlines, hjoined⟩

theorem TaskRunLogs.Hosted.drains {l : TaskRunLogs} {pod : String} {containers : List String}
    (h : l.Hosted S P pod containers text) (hw : P w) : ∃ lines,
    S.Drains LogLines.turn l.stream w lines ∧
    String.join (lines.map (· ++ "\n")) = String.join ((logSources containers).map text) := by
  obtain ⟨s, v, hstarted, hpod, rfl⟩ := h.started w hw
  obtain ⟨lines, hlines, hjoined⟩ := h.hosted.drains (h.hosted.stays.returns hstarted hw)
  have hgoesOn : ∀ wait, l.gateway.next s wait =
      some (PodLogs.stream ⟨l.config, pod, s.stepContainers⟩) := by
    intro wait
    simp [TaskRunLogs.gateway, hpod]
  exact ⟨lines, Gateway.drains l.guards (fun wait _ => hgoesOn wait) hstarted hlines, hjoined⟩

/-- What a turn of the lines adds to the text. -/
def LogText.after (before : String) : LogLines.Outcome → Turn LogText (Except Failure String)
  | .again l => .again ⟨before, some l⟩
  | .yield (.error e) l => .yield (.error e) ⟨before, some l⟩
  | .yield (.ok none) l => .yield (.ok before) ⟨before, some l⟩
  | .yield (.ok (some line)) l => .again ⟨before ++ line ++ "\n", some l⟩

theorem LogText.hold_turn {l : LogLines} {v : ω} {o : LogLines.Outcome} (before : String)
    (here : S.hold l.turn w = (o, v)) :
    S.hold (LogText.turn ⟨before, some l⟩) w = (LogText.after before o, v) := by
  simp only [LogText.turn]
  rw [Dialogue.bind_eq, S.hold_bind, here]
  rcases o with l | ⟨e | _ | line, l⟩ <;> rfl

/-- The lines of logs are collected, each with its line feed again. -/
theorem Surroundings.Drains.collected {l : LogLines} {lines : List String}
    (h : S.Drains LogLines.turn l w lines) (before : String) : ∃ v,
      S.Returns LogText.turn ⟨before, some l⟩ w
        (.ok (before ++ String.join (lines.map (· ++ "\n")))) v := by
  induction h generalizing before with
  | again here _ ih =>
    obtain ⟨v, hv⟩ := ih before
    exact ⟨v, .again (LogText.hold_turn before here) hv⟩
  | @item _ _ _ _ line lines here _ ih =>
    obtain ⟨v, hv⟩ := ih (before ++ line ++ "\n")
    rw [List.map_cons, String.join_cons, ← String.append_assoc, ← String.append_assoc]
    exact ⟨v, .again (LogText.hold_turn before here) hv⟩
  | ended here =>
    rw [List.map_nil, String.join_nil, String.append_empty]
    exact ⟨_, .yield (LogText.hold_turn before here)⟩

end Followed

/-! ### Either way -/

section Either

variable {ω : Type} {S : Surroundings ω} {P : ω → Prop} {text : Option String → String} {w : ω}
  {whole : String} {x : Client LogOutput}

theorem Surroundings.collects_iff (h : S.Collects x w (.ok whole))
    (result : Except Failure String) : S.Collects x w result ↔ result = .ok whole := by
  constructor
  · intro h'
    exact h'.unique h
  · rintro rfl
    exact h

/-- Logs come to a text in either way of reading. -/
theorem collects_either {fetch : Client (List SourceLog)} {l : LogLines} (follow : Bool)
    (fetched : ∃ logs v, S.hold fetch.run w = (.ok logs, v) ∧ SourceLog.joined logs = whole)
    (followed : ∃ lines, S.Drains LogLines.turn l w lines ∧
      String.join (lines.map (· ++ "\n")) = whole) :
    S.Collects (if follow then return .stream l else return .complete (← fetch)) w (.ok whole) := by
  cases follow with
  | true =>
    obtain ⟨lines, hlines, rfl⟩ := followed
    obtain ⟨v, hv⟩ := hlines.collected ""
    rw [String.empty_append] at hv
    have houtput : S.hold (return LogOutput.stream l : Client LogOutput).run w =
        (.ok (.stream l), w) := rfl
    exact .told houtput hv
  | false =>
    obtain ⟨logs, v, hlogs, rfl⟩ := fetched
    have houtput : S.hold (do return LogOutput.complete (← fetch) : Client LogOutput).run w =
        (.ok (.complete logs), v) := by
      rw [S.hold_run_bind hlogs]
      rfl
    exact .told houtput (.yield rfl)

/-- Followed logs and logs that are fetched as a whole come to the same text, those of a pod as well
as those of a task run. -/
theorem same_text_in_either_way :
    (∀ l : PodLogs, l.Hosted S P text → ∀ follow wait w, P w → ∀ result,
      S.Collects (l.read follow wait) w result ↔
        result = .ok (String.join ((logSources l.containers).map text))) ∧
    ∀ (l : TaskRunLogs) (pod : String) (containers : List String),
      l.Hosted S P pod containers text → ∀ follow wait w, P w → ∀ result,
        S.Collects (l.read follow wait) w result ↔
          result = .ok (String.join ((logSources containers).map text)) := by
  constructor
  · intro l h follow wait w hw
    exact Surroundings.collects_iff
      (collects_either (follow || wait) (h.hold_fetchAll hw) (h.drains hw))
  · intro l pod containers h follow wait w hw
    exact Surroundings.collects_iff
      (collects_either (follow || wait) (h.hold_fetchAll hw) (h.drains hw))

end Either

/-! A pod that is hosted by a server with one stream at a time, whose state is what that stream has
still to deliver. No time passes. -/

namespace LogServer

def oneStream (answer : Request → Response) (lines : Request → List String) :
    Surroundings (List String) where
  answer
    | .send r, w => (.ok (answer r), w)
    | .openStream r, _ => (.ok 0, lines r)
    | .readLine _, [] => (.ok none, [])
    | .readLine _, line :: rest => (.ok (some line), rest)
    | .sleep _, w => ((), w)
    | .now, w => (0, w)

variable {answer : Request → Response} {lines : Request → List String}

theorem delivers_oneStream {soon : Nat} (positive : 0 < soon) (told : List String) :
    (oneStream answer lines).Delivers soon 0 0 told told := by
  induction told with
  | nil => exact .closed rfl rfl positive
  | cons line told ih => exact .line rfl rfl ih

theorem started_oneStream {tracker : Tracker} {notice : String} {s : Snapshot}
    (announced : WatchChannel.announces notice = true)
    (watched : lines tracker.watch.request = [notice])
    (shown : (answer (.get (tracker.config.resourcePath tracker.kind tracker.name))).snapshot?
      tracker.kind = .ok (some s)) (started : StartWait.Started s) (w : List String) :
    ∃ v, (oneStream answer lines).Returns StartWait.turn tracker.waitForStart w (.ok (some s))
      v := by
  have hconnected := StartWait.follows_connecting tracker 0
  have hevent := StartWait.follows_starting 0 announced shown started
  have hopened : (oneStream answer lines).Answers
      [⟨.openStream tracker.watch.request, .ok 0⟩] w [notice] :=
    .cons (congrArg (Prod.mk (Except.ok 0)) watched) (.nil [notice])
  exact ⟨_, .again (Surroundings.hold_of_answers hconnected hopened)
    (.yield (Surroundings.hold_of_answers hevent (.cons rfl (.cons rfl (.nil [])))))⟩

def compileLines (container : Option String) : List String :=
  if container = some "step-compile" then ["compiling", "", "done"] else []

def compileLog (container : Option String) : String :=
  if container = some "step-compile" then "compiling\n\ndone\n" else ""

def compileHost : Surroundings (List String) :=
  let config := LogLines.hosted.config
  oneStream
    (fun r =>
      if r.path = config.logPath "pod" then ⟨200, compileLog (r.queryValue? "container")⟩
      else if r.path = config.resourcePath .pod "pod" then runningPod.document
      else LogLines.hostedDocument)
    (fun r =>
      if r.path = config.logPath "pod" then compileLines (r.queryValue? "container")
      else [runningPod.notice])

theorem inLines_compileLog (c : Option String) : Http.InLines (Http.spelling (compileLog c)) := by
  unfold compileLog
  split
  · have hlast : (Http.spelling "compiling\n\ndone\n").getLast? = some Http.lineFeed := by
      decide +kernel
    exact ⟨fun b hb => Option.some.inj (hb.symm.trans hlast), by decide +kernel⟩
  · have hnil : (Http.spelling "").getLast? = none := rfl
    exact ⟨fun b hb => (nomatch hnil.symm.trans hb), by decide +kernel⟩

theorem linesOf_compileLog (c : Option String) :
    (compileLines c).map Http.spelling = Http.linesOf (Http.spelling (compileLog c)) := by
  unfold compileLines compileLog
  split
  · decide +kernel
  · decide +kernel

theorem hosted_compileHost (containers : List String) :
    PodLogs.Hosted ⟨LogLines.hosted.config, "pod", containers⟩ compileHost (fun _ => True)
      compileLog where
  stays _ _ _ := trivial
  started w _ := by
    have hstarted := (StartWait.started_iff _).mp runningPod.started
    exact ⟨_, started_oneStream runningPod.announced rfl runningPod.shown hstarted w⟩
  inLines c _ := inLines_compileLog c
  whole c _ w _ := by
    cases c with
    | none => exact ⟨_, w, rfl, rfl, rfl⟩
    | some name => exact ⟨_, w, rfl, rfl, rfl⟩
  followed c _ w time w' _ now := by
    cases now
    have hpositive : 0 < LogLines.hosted.config.logs.minIdleTimeout := by decide
    have hlines : compileHost.answer
        (.openStream (LogLines.hosted.config.followRequest "pod" c none)) w =
          (.ok 0, compileLines c) := by
      cases c <;> rfl
    exact ⟨0, compileLines c, compileLines c, hlines, linesOf_compileLog c,
      delivers_oneStream hpositive (compileLines c)⟩

theorem hosted_compileHost_taskRun :
    LogLines.hosted.Hosted compileHost (fun _ => True) "pod" ["step-compile"] compileLog where
  hosted := hosted_compileHost ["step-compile"]
  started w _ := by
    have hstarted : StartWait.Started LogLines.hostedSnapshot := ⟨_, rfl, .inr (.inr ⟨rfl, rfl⟩)⟩
    obtain ⟨v, hv⟩ : ∃ v, compileHost.Returns StartWait.turn LogLines.hosted.tracker.waitForStart w
        (.ok (some LogLines.hostedSnapshot)) v :=
      started_oneStream runningPod.announced rfl LogLines.hosted_shown hstarted w
    exact ⟨_, v, hv, rfl, rfl⟩
  shown w _ := by
    have hsend : compileHost.hold (Client.send (.get
        (LogLines.hosted.config.resourcePath .taskRun LogLines.hosted.taskRun))).run w =
          (.ok LogLines.hostedDocument, w) := rfl
    have hsnapshot : compileHost.hold LogLines.hosted.tracker.snapshot.run w =
        (.ok (some LogLines.hostedSnapshot), w) := by
      rw [Tracker.snapshot]
      refine (compileHost.hold_run_bind hsend).trans ?_
      exact congrArg (·, w) LogLines.hosted_shown
    exact ⟨_, w, hsnapshot, rfl, rfl⟩

/-- The log of a container with a blank line, and the empty one of another container. -/
theorem same_text_in_either_way_compiling :
    PodLogs.Hosted ⟨LogLines.hosted.config, "pod", ["step-compile", "quiet"]⟩ compileHost
      (fun _ => True) compileLog ∧
    LogLines.hosted.Hosted compileHost (fun _ => True) "pod" ["step-compile"] compileLog ∧
    ∀ follow wait,
      compileHost.Collects (PodLogs.read ⟨LogLines.hosted.config, "pod", ["step-compile", "quiet"]⟩
        follow wait) [] (.ok "compiling\n\ndone\n") ∧
      compileHost.Collects (LogLines.hosted.read follow wait) [] (.ok "compiling\n\ndone\n") := by
  have hpod := hosted_compileHost ["step-compile", "quiet"]
  obtain ⟨hpods, htaskRuns⟩ := @same_text_in_either_way _ compileHost (fun _ => True) compileLog
  refine ⟨hpod, hosted_compileHost_taskRun, fun follow wait => ⟨?_, ?_⟩⟩
  · exact (hpods _ hpod follow wait [] trivial _).mpr (by decide +kernel)
  · exact (htaskRuns _ _ _ hosted_compileHost_taskRun follow wait [] trivial _).mpr
      (by decide +kernel)

end LogServer

end PipelineObserver
