import PipelineObserver.Api.Failure
import PipelineObserver.Api.Request
import PipelineObserver.Http.Address
import PipelineObserver.Http.Lines
import PipelineObserver.Text.Blank
/-!
Requests and answers over HTTP.
-/
namespace PipelineObserver.Http

/-- A request as it is sent to a host. -/
structure Message where
  method : Method
  address : Address
  headers : List (String × String)
  body : Option String
  deriving DecidableEq

/-- What comes back for a message. -/
inductive Arrival where
  -- The host cannot be reached.
  | unreachable
  -- The connection ended without an answer.
  | hungUp
  | answered (status : Nat) (contentType : Option String) (body : Delivery)

abbrev Network := Message → Arrival

/-- A server and the token that is sent to it. -/
structure Transport where
  -- The address that paths are relative to, without a slash at its end.
  baseUrl : String
  token : Option String
  deriving DecidableEq

namespace Transport

/-- A transport to an address, whose slashes at the end are left out. -/
def ofUrl (url : String) (token : Option String) : Transport :=
  ⟨String.ofList (url.toList.reverse.dropWhile (· == '/')).reverse, token⟩

def url (t : Transport) (path : String) : String :=
  t.baseUrl ++ "/" ++ String.ofList (path.toList.dropWhile (· == '/'))

/-- Characters that the name of a header is made of. -/
def inHeaderName (c : Char) : Bool := c.isAlphanum || "!#$%&'*+-.^_|~\x60".toList.contains c

def isHeaderName (s : String) : Bool := s ≠ "" && s.toList.all inHeaderName

/-- No control characters stand in a header, except tabs. -/
def isHeaderValue (s : String) : Bool :=
  s.toList.all fun c => (0x20 ≤ c.toNat && c.toNat ≠ 0x7F) || c == '\t'

/-- The headers of a request, with the token, and with a statement that any answer is accepted
unless the request makes its own. Names of headers are in lower case. -/
def headers (t : Transport) (r : Request) : List (String × String) :=
  let given := r.headers.map fun (k, v) => (String.ofList (k.toList.map Char.toLower), v)
  let token := match t.token with
    | some token => [("authorization", "Bearer " ++ token)]
    | none => []
  let accept := if given.any (·.1 = "accept") then [] else [("accept", "*/*")]
  given ++ token ++ accept

/-- The message for a request, if there can be one. -/
def message? (t : Transport) (r : Request) : Option Message := do
  let address ← Address.parse? (t.url r.path)
  let headers := t.headers r
  if headers.all fun (k, v) => isHeaderName k && isHeaderValue v then
    return { method := r.method, address := address.withPairs r.query, headers, body := r.body }
  else none

/-- Why nothing came back. -/
def lost : Failure := .connection ""

/-- Why a request failed that cannot be sent, or whose answer breaks off. -/
def broken : Failure := .requestFailed ""

/-- The failure of a request while no host can be reached. -/
def unreached (t : Transport) (r : Request) : Failure :=
  if (t.message? r).isSome then lost else broken

/-- The character set that a content type names. -/
def charset? (contentType : String) : Option String :=
  let parameters := (Text.split ';' contentType.toList).drop 1
  parameters.findSome? fun p =>
    let p := (Text.trim (String.ofList p)).toList
    let name := String.ofList ((p.takeWhile (· ≠ '=')).map Char.toLower)
    let value := (p.dropWhile (· ≠ '=')).drop 1
    if name = "charset" then
      some (String.ofList ((value.filter (· ≠ '"')).map Char.toLower))
    else none

/-- The text of a body. It is UTF-8 unless its content type says that it is Latin-1. -/
def text (contentType : Option String) (bytes : List UInt8) : String :=
  if contentType.bind charset? = some "iso-8859-1" then Text.ofLatin1 bytes
  else Text.lenient bytes

/-- Sends a request and reads the whole answer. -/
def send (t : Transport) (network : Network) (r : Request) : Except Failure Response :=
  match t.message? r with
  | none => .error broken
  | some m =>
    match network m with
    | .unreachable | .hungUp => .error lost
    | .answered status contentType body =>
      match body.bytes? with
      | some bytes => .ok ⟨status, text contentType bytes⟩
      | none => .error broken

/-- Sends a request whose answer is a stream of lines. An answer that is no success is an error with
its text. -/
def openStream (t : Transport) (network : Network) (r : Request) : Except Failure LineSplitter :=
  match t.message? r with
  | none => .error broken
  | some m =>
    match network m with
    | .unreachable | .hungUp => .error lost
    | .answered status contentType body =>
      if 200 ≤ status ∧ status < 300 then .ok { rest := body }
      else
        let said := match body.bytes? with
          | some bytes => text contentType bytes
          | none => "Unknown error"
        .error (.apiError status said)

end Transport

end PipelineObserver.Http
