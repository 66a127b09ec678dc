/-!
What can go wrong when a client talks to the server.
-/
namespace PipelineObserver

inductive Failure where
  -- The network failed for the moment: a timeout, or a connection refused or reset.
  | connection (detail : String)
  -- The request failed for another reason.
  | requestFailed (detail : String)
  -- The server answered with a status that is no success.
  | apiError (status : Nat) (body : String)
  -- An answer could not be read.
  | parseError (detail : String)
  | notFound (detail : String)
  -- The request was not even sent.
  | invalidRequest (detail : String)
  -- A bounded wait ran out of time.
  | timeout (detail : String)
  deriving DecidableEq

namespace Failure

def name : Failure → String
  | connection _ => "Connection"
  | requestFailed _ => "RequestFailed"
  | apiError .. => "ApiError"
  | parseError _ => "ParseError"
  | notFound _ => "NotFound"
  | invalidRequest _ => "InvalidRequest"
  | timeout _ => "Timeout"

def message : Failure → String
  | connection detail => "Connection failed: " ++ detail
  | requestFailed detail => "HTTP request failed: " ++ detail
  | apiError status body => "API error (status " ++ toString status ++ "): " ++ body
  | parseError detail => "Failed to parse response: " ++ detail
  | notFound detail => "Resource not found: " ++ detail
  | invalidRequest detail => "Invalid request: " ++ detail
  | timeout detail => "Timed out: " ++ detail

/-- The same request may well succeed later. -/
def isTransient : Failure → Bool
  | connection _ => true
  | _ => false

def isNotFound : Failure → Bool
  | notFound _ => true
  | apiError status _ => status = 404
  | _ => false

/-- An update was rejected because the resource changed meanwhile. -/
def isConflict : Failure → Bool
  | apiError status _ => status = 409
  | _ => false

def isClientError : Failure → Bool
  | apiError status _ => 400 ≤ status ∧ status < 500
  | _ => false

def isServerError : Failure → Bool
  | apiError status _ => 500 ≤ status
  | _ => false

/-- A body that should be a document is not JSON. -/
def unreadableBody : Failure := parseError "Failed to parse JSON response: "

/-- A document is not one of a resource of the kind asked for. -/
def unexpectedDocument (kind : String) : Failure :=
  parseError ("Unexpected " ++ kind ++ " document: ")

/-- A line of a stream is not UTF-8. -/
def unreadableLine : Failure := parseError "stream line is not valid UTF-8: "

end Failure

end PipelineObserver
