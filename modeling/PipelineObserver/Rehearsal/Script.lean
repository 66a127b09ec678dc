import PipelineObserver.Api.Failure
import PipelineObserver.Api.Request
import PipelineObserver.Table
/-!
Scripts: how a server behaves in a rehearsal. A request is answered by the next reply that the
script has for it, or else from the stored documents.
-/
namespace PipelineObserver.Rehearsal

/-- Changes of the stored documents by their paths; a document that is absent is deleted. -/
abbrev Changes := List (String × Option String)

def Changes.applyTo (changes : Changes) (documents : Table String) : Table String :=
  changes.foldl (fun documents (path, document) =>
    match document with
    | some text => Table.insert path text documents
    | none => Table.erase path documents) documents

/-- A reply to a request: after a delay and some changes, an answer or a failure. -/
structure Reply where
  method : Method
  path : String
  delay : Nat := 0
  changes : Changes := []
  outcome : Except Failure Response

/-- A part of a stream: after some silence and some changes, a failure, a line or nothing. -/
structure Step where
  idle : Nat := 0
  changes : Changes := []
  failure : Option Failure := none
  line : Option String := none

/-- A reply to the opening of a stream: after a delay and some changes, its steps or a failure. -/
structure StreamReply where
  path : String
  delay : Nat := 0
  changes : Changes := []
  outcome : Except Failure (List Step)

end PipelineObserver.Rehearsal
