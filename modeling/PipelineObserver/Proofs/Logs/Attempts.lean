import Mathlib.Data.List.Basic
import PipelineObserver.Proofs.Logs.Steps
/-!
What the lines of a pod do once it can be read: they take one source after the other, and ask for a
stream of it again and again until one is done. Whatever happens is the history of such readings:
`readings_of_run`.
-/
namespace PipelineObserver

/-- The request for a stream of the log of a source, from some seconds back on if they are given. -/
def Config.followRequest (c : Config) (pod : String) (source : Option String)
    (since : Option Nat) : Request where
  method := .get
  path := c.logPath pod
  query := ("follow", "true") :: (source.toList.map fun name => ("container", name)) ++
    since.toList.map fun seconds => ("sinceSeconds", toString seconds)
  headers := [("Connection", "close")]

/-- The end of a stream at some time: the server closed it, or it failed. -/
structure StreamStop where
  time : Nat
  failure : Option Failure := none

/-- What is read at the end of a stream. -/
def StreamStop.answer (d : StreamStop) : Except Failure (Option String) :=
  match d.failure with
  | none => .ok none
  | some e => .error e

/-- What became of a request for a stream. Lines stand with the time at which they were read. -/
inductive LogFate where
  | refused (time : Nat) (e : Failure)
  | opened (stream : StreamId) (lines : List (String × Nat)) (stop : Option StreamStop)

/-- A request for a stream, sent at some time. -/
structure LogAttempt where
  since : Option Nat
  time : Nat
  fate : LogFate

/-- The reading of one source, from the time at which it was taken. -/
structure LogReading where
  source : Option String
  time : Nat
  attempts : List LogAttempt

namespace LogLines

/-- The end, of which every later call is told again. -/
def endCourse (calls : Nat) : Course := List.replicate calls (.yielded (.ok none))

end LogLines

namespace LogFate

def stop? : LogFate → Option StreamStop
  | refused time e => some ⟨time, some e⟩
  | opened _ _ stop => stop

def lines : LogFate → List (String × Nat)
  | refused .. => []
  | opened _ lines _ => lines

/-- What happens from the request on. Each line is told as soon as it is read. -/
def history (r : Request) : LogFate → LogLines.Course
  | refused time e => [.exchanged ⟨.openStream r, .error e⟩, .exchanged ⟨.now, time⟩]
  | opened id lines stop =>
    .exchanged ⟨.openStream r, .ok id⟩ ::
      (lines.flatMap fun x => [.exchanged ⟨.readLine id, .ok (some x.1)⟩, .exchanged ⟨.now, x.2⟩,
        .yielded (.ok (some x.1))]) ++
      stop.toList.flatMap fun d =>
        [.exchanged ⟨.readLine id, d.answer⟩, .exchanged ⟨.now, d.time⟩]

end LogFate

namespace LogAttempt

/-- When the stream was asked for, or delivered its last line. -/
def lastActivity (a : LogAttempt) : Nat := (a.fate.lines.getLast?.map (·.2)).getD a.time

/-- How long the stream was silent when it was disconnected, if it was. -/
def idle? (a : LogAttempt) : Option Nat :=
  a.fate.stop?.bind fun d =>
    if d.failure.all (·.isTransient) then some (d.time - a.lastActivity) else none

/-- The lasting failure that ended the stream, if one did. -/
def failure? (a : LogAttempt) : Option Failure :=
  a.fate.stop?.bind fun d => d.failure.filter fun e => !e.isTransient

def history (request : Option Nat → Request) (a : LogAttempt) : LogLines.Course :=
  .exchanged ⟨.now, a.time⟩ :: a.fate.history (request a.since) ++
    a.failure?.toList.map fun e => .yielded (.error e)

end LogAttempt

namespace LogReading

def history (c : Config) (pod : String) (r : LogReading) : LogLines.Course :=
  .exchanged ⟨.now, r.time⟩ :: r.attempts.flatMap (·.history (c.followRequest pod r.source))

/-- Attempts each of which ended in a long silence, and the seconds from which the next one goes on:
those of the silence, but for one. -/
inductive Resumed (minIdle : Nat) : List LogAttempt → Option Nat → Prop
  | start : Resumed minIdle [] none
  | again {attempts : List LogAttempt} {a : LogAttempt} {idle : Nat}
      (before : Resumed minIdle attempts a.since) (h : a.idle? = some idle)
      (long : minIdle ≤ idle) :
      Resumed minIdle (attempts ++ [a]) (some ((idle - 1000) / 1000))

/-- The last stream ended after a short silence. -/
inductive Completed (minIdle : Nat) : LogReading → Prop
  | intro {source : Option String} {time : Nat} {attempts : List LogAttempt} {a : LogAttempt}
      {idle : Nat} (before : Resumed minIdle attempts a.since) (h : a.idle? = some idle)
      (short : idle < minIdle) : Completed minIdle ⟨source, time, attempts ++ [a]⟩

end LogReading

namespace LogLines

open LogReading

/-- The history of some readings, and of the calls after the end. -/
def courseOf (c : Config) (pod : String) (readings : List LogReading) (calls : Nat) : Course :=
  readings.flatMap (·.history c pod) ++ endCourse calls

/-- Where the lines stand after some readings, all but the last of which are complete. -/
inductive Place (minIdle : Nat) : List LogReading → Nat → LogLines → Prop
  | between {readings : List LogReading} {l : LogLines} (done : ∀ r ∈ readings, Completed minIdle r)
      (idle : l.cursor = none) (more : l.finished = false) : Place minIdle readings 0 l
  -- A stream is to be asked for.
  | due {earlier : List LogReading} {r : LogReading} {l : LogLines} {c : LogCursor}
      (done : ∀ r ∈ earlier, Completed minIdle r) (at_ : l.cursor = some c)
      (source : c.container = r.source) (closed : c.stream = none)
      (resumed : Resumed minIdle r.attempts c.since) (more : l.finished = false) :
      Place minIdle (earlier ++ [r]) 0 l
  | streaming {earlier : List LogReading} {started time : Nat} {attempts : List LogAttempt}
      {lines : List (String × Nat)} {l : LogLines} {c : LogCursor} {id : StreamId}
      (done : ∀ r ∈ earlier, Completed minIdle r) (at_ : l.cursor = some c)
      (reading : c.stream = some id) (resumed : Resumed minIdle attempts c.since)
      (last : c.lastActivity = (lines.getLast?.map (·.2)).getD time) (more : l.finished = false) :
      Place minIdle (earlier ++ [⟨c.container, started,
        attempts ++ [⟨c.since, time, .opened id lines none⟩]⟩]) 0 l
  | drained {readings : List LogReading} {calls : Nat} {l : LogLines}
      (done : ∀ r ∈ readings, Completed minIdle r) (none_ : l.pending = [])
      (ended : l.finished = true) : Place minIdle readings calls l
  | failed {earlier : List LogReading} {source : Option String} {started calls : Nat}
      {attempts : List LogAttempt} {a : LogAttempt} {e : Failure} {l : LogLines}
      (done : ∀ r ∈ earlier, Completed minIdle r) (resumed : Resumed minIdle attempts a.since)
      (failure : a.failure? = some e) (ended : l.finished = true) :
      Place minIdle (earlier ++ [⟨source, started, attempts ++ [a]⟩]) calls l

/-- The readings account for the lines of a pod. -/
structure Account (config : Config) (pod : String) (sources : List (Option String))
    (readings : List LogReading) (calls : Nat) (l : LogLines) : Prop where
  configured : l.config = config
  gate : l.gate = .opened pod
  sources : readings.map (·.source) ++ l.pending = sources
  place : Place config.logs.minIdleTimeout readings calls l

/-- The lines of a pod whose gate has just been opened. -/
def reading (config : Config) (pod : String) (sources : List (Option String)) : LogLines where
  config := config
  gate := .opened pod
  pending := sources

/-! ### What is added to a history -/

theorem request_eq (l : LogLines) (pod : String) (c : LogCursor) :
    l.request pod c = l.config.followRequest pod c.container c.since := by
  obtain ⟨container, since, stream, a⟩ := c
  cases container <;> cases since <;> rfl

variable {config : Config} {pod : String} {readings earlier : List LogReading} {l : LogLines}
  {t : List Exchange} {o : Outcome} {calls : Nat}

theorem courseOf_attempt (source : Option String) (started : Nat) (attempts : List LogAttempt)
    (a : LogAttempt) :
    courseOf config pod (earlier ++ [⟨source, started, attempts ++ [a]⟩]) 0 =
      courseOf config pod (earlier ++ [⟨source, started, attempts⟩]) 0 ++
        a.history (config.followRequest pod source) := by
  simp [courseOf, endCourse, LogReading.history]

theorem courseOf_taken (source : Option String) (time : Nat) :
    courseOf config pod (readings ++ [⟨source, time, []⟩]) 0 =
      courseOf config pod readings 0 ++ [.exchanged ⟨.now, time⟩] := by
  simp [courseOf, endCourse, LogReading.history]

theorem courseOf_call : courseOf config pod readings (calls + 1) =
    courseOf config pod readings calls ++ [.yielded (.ok none)] := by
  simp [courseOf, endCourse, List.replicate_succ']

theorem history_line (request : Option Nat → Request) (since : Option Nat) (time : Nat)
    (id : StreamId) (lines : List (String × Nat)) (text : String) (read : Nat) :
    LogAttempt.history request ⟨since, time, .opened id (lines ++ [(text, read)]) none⟩ =
      LogAttempt.history request ⟨since, time, .opened id lines none⟩ ++
        [.exchanged ⟨.readLine id, .ok (some text)⟩, .exchanged ⟨.now, read⟩,
          .yielded (.ok (some text))] := by
  simp [LogAttempt.history, LogFate.history, LogAttempt.failure?, LogFate.stop?]

theorem history_stop (request : Option Nat → Request) (since : Option Nat) (time : Nat)
    (id : StreamId) (lines : List (String × Nat)) (d : StreamStop) :
    LogAttempt.history request ⟨since, time, .opened id lines (some d)⟩ =
      LogAttempt.history request ⟨since, time, .opened id lines none⟩ ++
        [.exchanged ⟨.readLine id, d.answer⟩, .exchanged ⟨.now, d.time⟩] ++
        (d.failure.filter fun e => !e.isTransient).toList.map fun e => .yielded (.error e) := by
  simp [LogAttempt.history, LogFate.history, LogAttempt.failure?, LogFate.stop?]

/-! ### Disconnections -/

theorem disconnected_keeps (l : LogLines) (c : LogCursor) (time : Nat) :
    (l.disconnected c time).config = l.config ∧ (l.disconnected c time).gate = l.gate ∧
      (l.disconnected c time).pending = l.pending := by
  unfold disconnected
  dsimp only
  split
  · exact ⟨rfl, rfl, rfl⟩
  · exact ⟨rfl, rfl, rfl⟩

theorem interrupted_keeps (l : LogLines) (c : LogCursor) (e : Failure) (time : Nat) :
    (l.interrupted c e time).state.config = l.config ∧
      (l.interrupted c e time).state.gate = l.gate ∧
      (l.interrupted c e time).state.pending = l.pending := by
  unfold interrupted
  split
  · exact disconnected_keeps l c time
  · exact ⟨rfl, rfl, rfl⟩

section Stop

variable {minIdle : Nat} {attempts : List LogAttempt} {a : LogAttempt} {c : LogCursor}
  {d : StreamStop} (started : Nat)

theorem idle?_of_passing (stop : a.fate.stop? = some d) (passing : d.failure.all (·.isTransient)) :
    a.idle? = some (d.time - a.lastActivity) := by
  rw [LogAttempt.idle?, stop, Option.bind_some, if_pos passing]

theorem failure?_of_stop (stop : a.fate.stop? = some d) :
    a.failure? = d.failure.filter fun e => !e.isTransient := by
  rw [LogAttempt.failure?, stop, Option.bind_some]

theorem place_disconnected (done : ∀ r ∈ earlier, Completed minIdle r)
    (resumed : Resumed minIdle attempts a.since) (stop : a.fate.stop? = some d)
    (passing : d.failure.all (·.isTransient)) (last : a.lastActivity = c.lastActivity)
    (hmin : l.config.logs.minIdleTimeout = minIdle) (more : l.finished = false) :
    Place minIdle (earlier ++ [⟨c.container, started, attempts ++ [a]⟩]) 0
      (l.disconnected c d.time) := by
  have hidle := idle?_of_passing stop passing
  rw [last] at hidle
  unfold disconnected
  dsimp only
  -- A short silence completes the reading, and after a long one the next stream is due.
  by_cases hshort : d.time - c.lastActivity < minIdle
  · rw [if_pos (hmin ▸ hshort)]
    refine .between (fun r hr => ?_) rfl more
    rcases List.mem_append.mp hr with hr | hr
    · exact done r hr
    · rw [List.mem_singleton.mp hr]
      exact .intro resumed hidle hshort
  · rw [if_neg (hmin ▸ hshort)]
    exact .due done rfl rfl rfl (.again resumed hidle (Nat.not_lt.mp hshort)) more

theorem place_interrupted {e : Failure} {time : Nat} (done : ∀ r ∈ earlier, Completed minIdle r)
    (resumed : Resumed minIdle attempts a.since) (stop : a.fate.stop? = some ⟨time, some e⟩)
    (last : a.lastActivity = c.lastActivity) (hmin : l.config.logs.minIdleTimeout = minIdle)
    (more : l.finished = false) :
    Place minIdle (earlier ++ [⟨c.container, started, attempts ++ [a]⟩]) 0
        (l.interrupted c e time).state ∧
      (l.interrupted c e time).happenings t =
        t.map .exchanged ++ a.failure?.toList.map fun e => .yielded (.error e) := by
  rw [failure?_of_stop stop]
  cases he : e.isTransient with
  | true =>
    rw [interrupted, if_pos he]
    refine ⟨place_disconnected started done resumed stop (by simpa using he) last hmin more, ?_⟩
    simp [Turn.happenings, Option.filter, he]
  | false =>
    rw [interrupted, if_neg (by simp [he])]
    have hfailure : a.failure? = some e := by
      rw [failure?_of_stop stop]
      simp [Option.filter, he]
    refine ⟨.failed done resumed hfailure rfl, ?_⟩
    simp [Turn.happenings, Option.filter, he]

end Stop

/-! ### Every run is accounted for -/

variable {sources : List (Option String)}

/-- A turn adds what happened in it to the history of the readings. -/
def Adds (config : Config) (pod : String) (sources : List (Option String))
    (readings : List LogReading) (calls : Nat) (t : List Exchange) (o : Outcome) : Prop :=
  ∃ readings' calls', Account config pod sources readings' calls' o.state ∧
    courseOf config pod readings' calls' = courseOf config pod readings calls ++ o.happenings t

theorem Place.of_due {minIdle : Nat} {c : LogCursor} (h : Place minIdle readings calls l)
    (more : l.finished = false) (at_ : l.cursor = some c) (closed : c.stream = none) :
    calls = 0 ∧ ∃ earlier started attempts,
      readings = earlier ++ [⟨c.container, started, attempts⟩] ∧
      (∀ r ∈ earlier, Completed minIdle r) ∧ Resumed minIdle attempts c.since := by
  cases h with
  | @due earlier r _ c' done at_' source closed resumed _ =>
    obtain rfl : c' = c := by simpa [at_'] using at_
    obtain ⟨_, started, attempts⟩ := r
    cases source
    exact ⟨rfl, earlier, started, attempts, rfl, done, resumed⟩
  | between _ idle _ => simp [idle] at at_
  | streaming _ at_' reading _ _ _ =>
    obtain rfl := Option.some.inj (at_'.symm.trans at_)
    simp [reading] at closed
  | drained _ _ ended => simp [ended] at more
  | failed _ _ _ ended => simp [ended] at more

theorem Place.of_streaming {minIdle : Nat} {c : LogCursor} {id : StreamId}
    (h : Place minIdle readings calls l) (more : l.finished = false) (at_ : l.cursor = some c)
    (reading : c.stream = some id) :
    calls = 0 ∧ ∃ earlier started attempts time lines,
      readings = earlier ++ [⟨c.container, started,
        attempts ++ [⟨c.since, time, .opened id lines none⟩]⟩] ∧
      (∀ r ∈ earlier, Completed minIdle r) ∧ Resumed minIdle attempts c.since ∧
      c.lastActivity = (lines.getLast?.map (·.2)).getD time := by
  cases h with
  | streaming done at_' reading' resumed last _ =>
    obtain rfl := Option.some.inj (at_'.symm.trans at_)
    obtain rfl := Option.some.inj (reading'.symm.trans reading)
    exact ⟨rfl, _, _, _, _, _, rfl, done, resumed, last⟩
  | between _ idle _ => simp [idle] at at_
  | due _ at_' _ closed _ _ =>
    obtain rfl := Option.some.inj (at_'.symm.trans at_)
    simp [reading] at closed
  | drained _ _ ended => simp [ended] at more
  | failed _ _ _ ended => simp [ended] at more

theorem Account.call_after_end (h : Account config pod sources readings calls l)
    (ended : l.finished = true) :
    Adds config pod sources readings calls [] (.yield (.ok none) l) := by
  refine ⟨readings, calls + 1, ⟨h.configured, h.gate, h.sources, ?_⟩, courseOf_call⟩
  cases h.place with
  | drained done none_ ended => exact .drained done none_ ended
  | failed done resumed failure ended => exact .failed done resumed failure ended
  | _ => simp [ended] at *

theorem Account.extended {source : Option String} {started : Nat}
    {attempts longer : List LogAttempt}
    (h : Account config pod sources (earlier ++ [⟨source, started, attempts⟩]) 0 l)
    (kept : o.state.config = l.config ∧ o.state.gate = l.gate ∧ o.state.pending = l.pending)
    (place :
      Place config.logs.minIdleTimeout (earlier ++ [⟨source, started, longer⟩]) 0 o.state)
    (added : courseOf config pod (earlier ++ [⟨source, started, longer⟩]) 0 =
      courseOf config pod (earlier ++ [⟨source, started, attempts⟩]) 0 ++ o.happenings t) :
    Adds config pod sources (earlier ++ [⟨source, started, attempts⟩]) 0 t o := by
  obtain ⟨hconfig, hgate, hpending⟩ := kept
  refine ⟨_, 0, ⟨hconfig.trans h.configured, hgate.trans h.gate, ?_, place⟩, added⟩
  rw [hpending, ← h.sources]
  simp

theorem Account.reads (h : Account config pod sources readings calls l)
    (more : l.finished = false) (hs : ReadStep l pod t o) :
    Adds config pod sources readings calls t o := by
  have hplace := h.place
  obtain rfl := h.configured
  -- Where the lines stand is decided by the cursor, which each step tests.
  cases hs with
  | @taken source rest time idle next =>
    cases hplace with
    | between done idle more =>
      refine ⟨readings ++ [⟨source, time, []⟩], 0,
        ⟨rfl, h.gate, ?_, .due done rfl rfl rfl .start more⟩, courseOf_taken source time⟩
      rw [← h.sources, next]
      simp
    | _ => simp_all
  | drained idle next =>
    cases hplace with
    | between done idle more =>
      exact ⟨readings, 1, ⟨rfl, h.gate, h.sources, .drained done next rfl⟩, courseOf_call⟩
    | _ => simp_all
  | @opened c time id at_ closed =>
    obtain ⟨rfl, earlier, started, attempts, rfl, done, resumed⟩ := hplace.of_due more at_ closed
    have hnow : Place l.config.logs.minIdleTimeout (earlier ++ [⟨c.container, started,
        attempts ++ [⟨c.since, time, .opened id [] none⟩]⟩]) 0
        { l with cursor := some { c with stream := some id, lastActivity := time } } :=
      .streaming (c := { c with stream := some id, lastActivity := time })
        done rfl rfl resumed rfl more
    refine h.extended ⟨rfl, rfl, rfl⟩ hnow ?_
    rw [courseOf_attempt, request_eq]
    rfl
  | @refused c time e later at_ closed =>
    obtain ⟨rfl, earlier, started, attempts, rfl, done, resumed⟩ := hplace.of_due more at_ closed
    have hattempt := place_interrupted started (a := ⟨c.since, time, .refused later e⟩)
      (c := { c with lastActivity := time })
      (t := [⟨.now, time⟩, ⟨.openStream (l.request pod c), .error e⟩, ⟨.now, later⟩])
      done resumed rfl rfl rfl more
    refine h.extended (interrupted_keeps l _ e later) hattempt.1 ?_
    rw [courseOf_attempt, hattempt.2, request_eq]
    rfl
  | @line c id text time at_ reading =>
    obtain ⟨rfl, earlier, started, attempts, asked, lines, rfl, done, resumed, last⟩ :=
      hplace.of_streaming more at_ reading
    have hnow : Place l.config.logs.minIdleTimeout (earlier ++ [⟨c.container, started,
        attempts ++ [⟨c.since, asked, .opened id (lines ++ [(text, time)]) none⟩]⟩]) 0
        { l with cursor := some { c with lastActivity := time } } :=
      .streaming (c := { c with lastActivity := time }) done rfl reading resumed (by simp) more
    refine h.extended ⟨rfl, rfl, rfl⟩ hnow ?_
    rw [courseOf_attempt, courseOf_attempt, history_line, List.append_assoc]
    rfl
  | @closed c id time at_ reading =>
    obtain ⟨rfl, earlier, started, attempts, asked, lines, rfl, done, resumed, last⟩ :=
      hplace.of_streaming more at_ reading
    have hnow := place_disconnected started
      (a := ⟨c.since, asked, .opened id lines (some ⟨time, none⟩)⟩) (d := ⟨time, none⟩)
      done resumed rfl rfl last.symm rfl more
    refine h.extended (disconnected_keeps l c time) hnow ?_
    rw [courseOf_attempt, courseOf_attempt, history_stop]
    simp [StreamStop.answer, Turn.happenings]
  | @broken c id e time at_ reading =>
    obtain ⟨rfl, earlier, started, attempts, asked, lines, rfl, done, resumed, last⟩ :=
      hplace.of_streaming more at_ reading
    have hattempt := place_interrupted started
      (a := ⟨c.since, asked, .opened id lines (some ⟨time, some e⟩)⟩) (c := c)
      (t := [⟨.readLine id, .error e⟩, ⟨.now, time⟩]) done resumed rfl last.symm rfl more
    refine h.extended (interrupted_keeps l c e time) hattempt.1 ?_
    rw [courseOf_attempt, courseOf_attempt, history_stop, hattempt.2]
    simp only [List.append_assoc]
    rfl

theorem Account.step (h : Account config pod sources readings calls l) (hs : Step l t o) :
    Adds config pod sources readings calls t o := by
  cases hs with
  | ended hended => exact h.call_after_end hended
  | taskRun _ gate _ => cases h.gate.symm.trans gate
  | pod _ gate _ => cases h.gate.symm.trans gate
  | reads more gate here =>
    obtain rfl : pod = _ := LogGate.opened.inj (h.gate.symm.trans gate)
    exact h.reads more here

/-- Whatever happens to the lines of a pod that can be read is the history of readings of the first
of its sources, and then the end. -/
theorem readings_of_run {happened : Course}
    (run : Run turn (reading config pod sources) happened l) :
    ∃ readings calls, Account config pod sources readings calls l ∧
      happened = courseOf config pod readings calls := by
  have hstart : ∃ readings calls,
      Account config pod sources readings calls (reading config pod sources) ∧
        [] = courseOf config pod readings calls :=
    ⟨[], 0, ⟨rfl, rfl, rfl, .between (by simp) rfl rfl⟩, rfl⟩
  have hrun := run.keeps (P := fun happened l => ∃ readings calls,
    Account config pod sources readings calls l ∧
      happened = courseOf config pod readings calls) ?_ hstart
  · rwa [List.nil_append] at hrun
  · rintro before l t o ⟨readings, calls, h, rfl⟩ ht
    obtain ⟨readings', calls', h', hcourse⟩ := h.step (step_of_follows ht)
    exact ⟨readings', calls', h', hcourse.symm⟩

/-! ### What the readings have in common -/

section Common

variable {minIdle : Nat} {attempts before later : List LogAttempt} {a : LogAttempt}
  {since : Option Nat}

theorem resumed_of_concat (h : Resumed minIdle attempts a.since) {x : LogAttempt}
    (split : attempts ++ [a] = before ++ x :: later) :
    Resumed minIdle before x.since ∨ ∃ rest, attempts = before ++ x :: rest := by
  rcases append_eq_append_cons split with ⟨bs, rfl, hbs⟩ | ⟨bs, hattempts, -⟩
  · cases bs with
    | nil =>
      cases hbs
      rw [List.append_nil]
      exact .inl h
    | cons b bs => simp at hbs
  · exact .inr ⟨bs, hattempts⟩

theorem resumed_of_split (h : Resumed minIdle attempts since)
    (split : attempts = before ++ a :: later) : Resumed minIdle before a.since := by
  -- Either the attempt is the last one, or it stands among those before.
  induction h generalizing later with
  | start => simp at split
  | again before' _ _ ih =>
    rcases resumed_of_concat before' split with h | ⟨rest, hrest⟩
    · exact h
    · exact ih hrest

theorem since_eq_none_iff (h : Resumed minIdle attempts since) : since = none ↔ attempts = [] := by
  cases h with
  | start => simp
  | again => simp

theorem long_of_resumed (h : Resumed minIdle attempts since) :
    ∀ a ∈ attempts, ∃ idle, a.idle? = some idle ∧ minIdle ≤ idle := by
  intro a ha
  induction h with
  | start => simp at ha
  | again _ hidle long ih =>
    rcases List.mem_append.mp ha with ha | ha
    · exact ih ha
    · rw [List.mem_singleton.mp ha]
      exact ⟨_, hidle, long⟩

/-- Each stream of a source was asked for from where the one before it was left. -/
def IsContinued (minIdle : Nat) (r : LogReading) : Prop :=
  ∀ before a later, r.attempts = before ++ a :: later → Resumed minIdle before a.since

theorem isContinued_of_resumed {r : LogReading} (h : Resumed minIdle r.attempts since) :
    IsContinued minIdle r := fun _ _ _ split => resumed_of_split h split

theorem isContinued_concat {source : Option String} {time : Nat}
    (h : Resumed minIdle attempts a.since) :
    IsContinued minIdle ⟨source, time, attempts ++ [a]⟩ := by
  intro before x later split
  rcases resumed_of_concat h split with hx | ⟨rest, hrest⟩
  · exact hx
  · exact resumed_of_split h hrest

theorem isContinued_of_completed {r : LogReading} (h : Completed minIdle r) :
    IsContinued minIdle r := by
  cases h with
  | intro before h short => exact isContinued_concat before

theorem Place.isContinued (h : Place minIdle readings calls l) :
    ∀ r ∈ readings, IsContinued minIdle r := by
  have hlast {xs : List LogReading} {r : LogReading} (done : ∀ r ∈ xs, Completed minIdle r)
      (hr : IsContinued minIdle r) : ∀ x ∈ xs ++ [r], IsContinued minIdle x := by
    intro x hx
    rcases List.mem_append.mp hx with hx | hx
    · exact isContinued_of_completed (done x hx)
    · rwa [List.mem_singleton.mp hx]
  cases h with
  | between done | drained done => exact fun r hr => isContinued_of_completed (done r hr)
  | due done _ _ _ resumed _ => exact hlast done (isContinued_of_resumed resumed)
  | streaming done _ _ resumed _ _ =>
    exact hlast done (isContinued_concat (a := ⟨_, _, _⟩) resumed)
  | failed done resumed _ _ => exact hlast done (isContinued_concat resumed)

theorem Place.completed (h : Place minIdle readings calls l) {earlier later : List LogReading}
    {r next : LogReading} (split : readings = earlier ++ r :: next :: later) :
    Completed minIdle r := by
  have hlast {xs : List LogReading} {x : LogReading} (done : ∀ r ∈ xs, Completed minIdle r)
      (h : xs ++ [x] = earlier ++ r :: next :: later) : Completed minIdle r := by
    rcases append_eq_append_cons h with ⟨bs, -, hbs⟩ | ⟨bs, rfl, -⟩
    · cases bs with
      | nil => simp at hbs
      | cons b bs => simp at hbs
    · exact done r (by simp)
  cases h with
  | between done | drained done => exact done r (by simp [split])
  | due done | streaming done | failed done => exact hlast done split

end Common

end LogLines

end PipelineObserver
