import PipelineObserver.Api.Failure
import PipelineObserver.Api.Request
/-!
Dialogues: what a client does, told as the questions that it puts to its surroundings, one after the
other, each of which may depend on the answers before it. The surroundings are the server, whose
behaviour is not restricted in any way, and the clock. Every dialogue ends if every question is
answered.
-/
namespace PipelineObserver

abbrev StreamId := Nat

inductive Question where
  -- Sends a request and reads the whole answer.
  | send (request : Request)
  -- Sends a request whose answer is a stream of lines.
  | openStream (request : Request)
  -- Waits for the next line of a stream; there is none once the server has closed it.
  | readLine (stream : StreamId)
  -- Lets time pass.
  | sleep (duration : Nat)
  -- Asks for the time.
  | now
  deriving DecidableEq

abbrev Question.Answer : Question → Type
  | send _ => Except Failure Response
  | openStream _ => Except Failure StreamId
  | readLine _ => Except Failure (Option String)
  | sleep _ => Unit
  | now => Nat

inductive Dialogue (α : Type) where
  | done (result : α)
  | ask (question : Question) (next : question.Answer → Dialogue α)

namespace Dialogue

variable {α β γ : Type}

/-- Goes on with a second dialogue that depends on the result of the first. -/
def bind : Dialogue α → (α → Dialogue β) → Dialogue β
  | done a, f => f a
  | ask q next, f => ask q fun answer => bind (next answer) f

instance : Monad Dialogue where
  pure := done
  bind := bind

@[simp] theorem bind_done (a : α) (f : α → Dialogue β) : (done a).bind f = f a := rfl

@[simp] theorem bind_ask (q : Question) (next : q.Answer → Dialogue α) (f : α → Dialogue β) :
    (ask q next).bind f = ask q fun answer => (next answer).bind f := rfl

@[simp] theorem pure_eq (a : α) : (pure a : Dialogue α) = done a := rfl

@[simp] theorem bind_eq (d : Dialogue α) (f : α → Dialogue β) : d >>= f = d.bind f := rfl

theorem bind_pure (d : Dialogue α) : d.bind done = d := by
  induction d with
  | done a => rfl
  | ask q next ih => simp [ih]

theorem bind_assoc (d : Dialogue α) (f : α → Dialogue β) (g : β → Dialogue γ) :
    (d.bind f).bind g = d.bind fun a => (f a).bind g := by
  induction d with
  | done a => rfl
  | ask q next ih => simp [ih]

instance : LawfulMonad Dialogue :=
  LawfulMonad.mk' Dialogue bind_pure (fun _ _ => rfl) bind_assoc

def question (q : Question) : Dialogue q.Answer := ask q done

def send (r : Request) : Dialogue (Except Failure Response) := question (.send r)

def openStream (r : Request) : Dialogue (Except Failure StreamId) := question (.openStream r)

def readLine (s : StreamId) : Dialogue (Except Failure (Option String)) := question (.readLine s)

def sleep (duration : Nat) : Dialogue Unit := question (.sleep duration)

def now : Dialogue Nat := question .now

end Dialogue

/-- A dialogue that may fail. -/
abbrev Client := ExceptT Failure Dialogue

namespace Client

/-- A dialogue of which a failure is no ordinary result. -/
def ofDialogue {α : Type} (d : Dialogue (Except Failure α)) : Client α := ExceptT.mk d

/-- Sends a request and reads the whole answer. -/
def send (r : Request) : Client Response := ofDialogue (Dialogue.send r)

def ofExcept {α : Type} (e : Except Failure α) : Client α := ofDialogue (.done e)

end Client

/-- One turn of an activity that is made of steps: it goes on in another state, or it yields
something and stops there for the moment. -/
inductive Turn (σ α : Type) where
  | again (state : σ)
  | yield (value : α) (state : σ)

end PipelineObserver
