import PipelineObserver.Http.Transport
/-!
Requests and answers as they travel between the two ends of a connection. A request is a text; an
answer is a head, which ends at the first empty line, and a body, whose end the head tells how to
know.
-/
namespace PipelineObserver.Http

/-- The number of the service on the host. -/
def Address.serviceNumber (a : Address) : Nat :=
  a.service.getD (Address.usualService a.secure)

/-- The host, with the number of its service unless that is the usual one. -/
def Address.authority (a : Address) : String :=
  match a.service with
  | some n => a.host ++ ":" ++ toString n
  | none => a.host

def Message.render (m : Message) : String :=
  let length := match m.body with
    | some body => [("content-length", toString body.utf8ByteSize)]
    | none => []
  let headers := ("host", m.address.authority) :: m.headers ++ length
  m.method.name ++ " " ++ m.address.target ++ " HTTP/1.1\r\n"
    ++ String.join (headers.map fun (name, value) => name ++ ": " ++ value ++ "\r\n") ++ "\r\n"
    ++ m.body.getD ""

/-- The bytes before the first empty line, and those after it. -/
def splitHead? : List UInt8 → Option (List UInt8 × List UInt8)
  | 13 :: 10 :: 13 :: 10 :: rest => some ([], rest)
  | b :: rest => (splitHead? rest).map fun (head, body) => (b :: head, body)
  | [] => none

structure Head where
  status : Nat
  -- The headers; their names are in lower case.
  headers : List (String × String)
  deriving DecidableEq

namespace Head

/-- A line of a head that gives a header. -/
def header? (line : List Char) : Option (String × String) :=
  if line.contains ':' then
    some (String.ofList ((line.takeWhile (· ≠ ':')).map Char.toLower),
      Text.trim (String.ofList ((line.dropWhile (· ≠ ':')).drop 1)))
  else none

def ofBytes? (bytes : List UInt8) : Option Head :=
  let lines := Text.split '\n' ((Text.ofLatin1 bytes).toList.filter (· ≠ '\r'))
  match lines with
  | [] => none
  | first :: rest =>
    match Text.split ' ' first with
    | version :: status :: _ =>
      if version.take 5 = "HTTP/".toList then
        (Text.decimal? status).map fun n => ⟨n, rest.filterMap header?⟩
      else none
    | _ => none

def get? (h : Head) (name : String) : Option String := h.headers.lookup name

end Head

/-- The place reached in a body. -/
inductive BodyPlace where
  -- So many bytes are still to come.
  | counted (left : Nat)
  -- The end of the connection is that of the body.
  | unbounded
  -- In the line that gives the size of a chunk; after its digits anything may follow.
  | size (soFar : Nat) (digits : Bool)
  | chunk (left : Nat)
  -- At the end of the line of a chunk.
  | chunkEnd
  -- In a line after the last chunk, of which nothing has come if it is blank so far.
  | trailer (blank : Bool)
  | ended
  | malformed
  deriving DecidableEq

namespace BodyPlace

/-- The beginning of a body, as its head tells. Some answers have none. -/
def ofHead (h : Head) : BodyPlace :=
  if h.status = 204 ∨ h.status = 304 then ended
  else if (h.get? "transfer-encoding").any fun e => e.toList.map Char.toLower = "chunked".toList then
    size 0 true
  else
    match h.get? "content-length" with
    | some text =>
      match Text.decimal? text.toList with
      | some 0 => ended
      | some n => counted n
      | none => malformed
    | none => unbounded

/-- Reads one byte: the byte of the body that it is, if any, and the place after it. -/
def step (place : BodyPlace) (b : UInt8) : Option UInt8 × BodyPlace :=
  match place with
  | counted n => (some b, if n ≤ 1 then ended else counted (n - 1))
  | unbounded => (some b, unbounded)
  | size n digits =>
    if b = lineFeed then (none, if n = 0 then trailer true else chunk n)
    else
      match Text.hexDigit? (Char.ofNat b.toNat) with
      | some d => (none, if digits then size (n * 16 + d) true else size n false)
      | none => (none, size n false)
  | chunk n => (some b, if n ≤ 1 then chunkEnd else chunk (n - 1))
  | chunkEnd =>
    if b = lineFeed then (none, size 0 true)
    else (none, if b = carriageReturn then chunkEnd else malformed)
  | trailer blank =>
    if b = lineFeed then (none, if blank then ended else trailer true)
    else (none, if b = carriageReturn then trailer blank else trailer false)
  | ended => (none, ended)
  | malformed => (none, malformed)

/-- Reads bytes: those of the body that are among them, and the place after them. -/
def read (place : BodyPlace) (bytes : List UInt8) : List UInt8 × BodyPlace :=
  let (found, place) := bytes.foldl (fun (found, place) b =>
    match step place b with
    | (some b, place) => (b :: found, place)
    | (none, place) => (found, place)) (([] : List UInt8), place)
  (found.reverse, place)

/-- Whether the body is over even if the connection goes on. -/
def isOver (place : BodyPlace) : Bool := place = ended || place = malformed

/-- Whether the body is complete if the connection ends here. -/
def isComplete (place : BodyPlace) : Bool := place = ended || place = unbounded

end BodyPlace

end PipelineObserver.Http
