/-!
Arguments of a command: options, which begin with a hyphen, and operands. An option has a long name
after two hyphens and perhaps a letter after one. Its value follows it as the next argument, or
after an equals sign, or directly after its letter. Letters may share a hyphen. After a bare double
hyphen every argument is an operand. No option is given twice.
-/
namespace PipelineObserver

structure KnownOption where
  long : String
  short : Option Char := none
  takesValue : Bool := true
  deriving DecidableEq

structure Arguments where
  -- The options by their long names; one that takes no value has the empty one.
  options : List (String × String) := []
  operands : List String := []
  -- The option whose value comes next.
  awaiting : Option String := none
  -- No more options are read.
  literal : Bool := false
  deriving DecidableEq

namespace Arguments

def withOption (a : Arguments) (long value : String) : Arguments :=
  { a with options := a.options ++ [(long, value)], awaiting := none }

def withOperand (a : Arguments) (text : String) : Arguments :=
  { a with operands := a.operands ++ [text] }

/-- Reads an option by its long name, with the value after its equals sign. -/
def readLong? (known : List KnownOption) (a : Arguments) (name : String) (value : Option String) :
    Option Arguments := do
  let option ← known.find? (·.long = name)
  match option.takesValue, value with
  | true, some v => some (a.withOption name v)
  | true, none => some { a with awaiting := some name }
  | false, none => some (a.withOption name "")
  | false, some _ => none

def readShort? (known : List KnownOption) (a : Arguments) : List Char → Option Arguments
  | [] => some a
  | c :: rest => do
    let option ← known.find? (·.short = some c)
    if option.takesValue then
      match rest with
      | [] => some { a with awaiting := some option.long }
      | '=' :: value => some (a.withOption option.long (String.ofList value))
      | value => some (a.withOption option.long (String.ofList value))
    else readShort? known (a.withOption option.long "") rest

/-- Reads one argument. One that begins with a hyphen is never a value or, before the bare double
hyphen, an operand, unless it is the hyphen alone. -/
def read? (known : List KnownOption) (a : Arguments) (arg : String) : Option Arguments :=
  if a.literal then some (a.withOperand arg)
  else
    match arg.toList, a.awaiting with
    | ['-', '-'], none => some { a with literal := true }
    | '-' :: '-' :: text, none =>
      let name := String.ofList (text.takeWhile (· ≠ '='))
      let value := if text.contains '=' then
          some (String.ofList ((text.dropWhile (· ≠ '=')).drop 1))
        else none
      readLong? known a name value
    | '-' :: c :: letters, none => readShort? known a (c :: letters)
    | '-' :: _ :: _, some _ => none
    | _, some option => some (a.withOption option arg)
    | _, none => some (a.withOperand arg)

/-- Whether all options have their values and none was given twice. -/
def isComplete (a : Arguments) : Bool :=
  a.awaiting.isNone && (a.options.map (·.1)).eraseDups.length == a.options.length

def ofList? (known : List KnownOption) (args : List String) : Option Arguments := do
  let a ← args.foldlM (read? known) {}
  if a.isComplete then some a else none

/-- Reads the arguments up to the first operand, and gives back those after it. -/
def leading? (known : List KnownOption) (a : Arguments) : List String → Option (Arguments × List String)
  | [] => if a.isComplete then some (a, []) else none
  | arg :: rest => do
    let a ← read? known a arg
    if a.operands.isEmpty then leading? known a rest
    else if a.isComplete then some (a, rest)
    else none

def option? (a : Arguments) (long : String) : Option String := a.options.lookup long

def has (a : Arguments) (long : String) : Bool := (a.option? long).isSome

def operand? (a : Arguments) : Option String :=
  match a.operands with
  | [text] => some text
  | _ => none

end Arguments

end PipelineObserver
