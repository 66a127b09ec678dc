import PipelineObserver.Api.Failure
import PipelineObserver.Text.Utf8
/-!
The lines of a body that arrives in chunks. Where the body is cut into chunks makes no difference.
-/
namespace PipelineObserver.Http

/-- A body as it arrives: its chunks, and whether they are all of it. -/
structure Delivery where
  chunks : List (List UInt8)
  complete : Bool := true
  deriving DecidableEq

/-- The bytes of a body that arrived in full. -/
def Delivery.bytes? (d : Delivery) : Option (List UInt8) :=
  if d.complete then some d.chunks.flatten else none

def lineFeed : UInt8 := 10

def carriageReturn : UInt8 := 13

/-- A line without the carriage return that may stand before its line feed. -/
def withoutReturn (line : List UInt8) : List UInt8 :=
  if line.getLast? = some carriageReturn then line.dropLast else line

/-- The bytes up to the first line feed, and those after it. -/
def splitLine? (bytes : List UInt8) : Option (List UInt8 × List UInt8) :=
  if bytes.contains lineFeed then
    some (withoutReturn (bytes.takeWhile (· ≠ lineFeed)),
      (bytes.dropWhile (· ≠ lineFeed)).drop 1)
  else none

def decodeLine (line : List UInt8) : Except Failure String :=
  match Text.ofUtf8? line with
  | some s => .ok s
  | none => .error .unreadableLine

structure LineSplitter where
  -- The bytes that arrived and belong to no line yet.
  buffer : List UInt8 := []
  -- The chunks that are still to arrive.
  rest : Delivery
  deriving DecidableEq

namespace LineSplitter

/-- What is left at the end of the body: a last line without a line feed, unless it is empty. -/
def atEnd (buffer : List UInt8) (complete : Bool) :
    Except Failure (Option String) × LineSplitter :=
  if complete then
    if buffer.isEmpty then (.ok none, ⟨[], ⟨[], true⟩⟩)
    else ((decodeLine buffer).map some, ⟨[], ⟨[], true⟩⟩)
  else (.error (.requestFailed ""), ⟨buffer, ⟨[], false⟩⟩)

/-- The next line of what arrived and of the chunks that arrive. -/
def nextFrom (buffer : List UInt8) (complete : Bool) :
    List (List UInt8) → Except Failure (Option String) × LineSplitter
  | [] =>
    match splitLine? buffer with
    | some (line, after) => ((decodeLine line).map some, ⟨after, ⟨[], complete⟩⟩)
    | none => atEnd buffer complete
  | chunk :: chunks =>
    match splitLine? buffer with
    | some (line, after) => ((decodeLine line).map some, ⟨after, ⟨chunk :: chunks, complete⟩⟩)
    | none => nextFrom (buffer ++ chunk) complete chunks

/-- The next line. There is none once the body has ended. -/
def next (s : LineSplitter) : Except Failure (Option String) × LineSplitter :=
  nextFrom s.buffer s.rest.complete s.rest.chunks

end LineSplitter

end PipelineObserver.Http
