import PipelineObserver.Json.Printer
import PipelineObserver.Tracker.PipelineRun
/-!
Creating a pipeline run, cancelling it, and changing its labels and annotations. Changes are sent as
merge patches that name nothing but what they change, and are sent again while the server reports a
conflict.
-/
namespace PipelineObserver.PipelineRun

/-- The name that a document declares for its resource. -/
def declaredName? (doc : Json) : Option String :=
  (doc.get? "metadata").bind fun metadata => (metadata.get? "name").bind Json.text?

/-- The document in the body of an answer. -/
def answered (r : Response) : Except Failure Json :=
  match Json.parse? r.body with
  | some doc => .ok doc
  | none => .error (.parseError "")

/-- Creates the pipeline run from a document, which must declare its name. -/
def start (p : PipelineRun) (doc : Json) : Client Json := do
  if doc.isNull then
    throw (.invalidRequest "No input data provided for pipeline run to start")
  let declared := declaredName? doc
  if declared ≠ some p.name then
    throw (.invalidRequest ("Pipeline run name provided '" ++ p.name
      ++ "' is different than in input data '" ++ declared.getD "" ++ "'"))
  let response ← Client.send (.post (p.config.collectionPath .pipelineRun) doc.render)
  Client.ofExcept (response.checked >>= answered)

/-- A patch that says which resource is meant, with the given members of its metadata and of its
specification. -/
def patch (p : PipelineRun) (metadata spec : List (String × Json)) : Json :=
  .ofMembers [
    ("apiVersion", .text p.config.pipelinesApiVersion),
    ("kind", .text "PipelineRun"),
    ("metadata", .ofMembers (("name", .text p.name) :: metadata)),
    ("spec", .ofMembers spec)]

/-- Whether the answer to a patch is a conflict, and else what it means. -/
def patched (missing : Failure) (r : Response) : Option (Except Failure Json) :=
  if r.status = 404 then some (.error missing)
  else if r.status = 409 then none
  else some (r.checked >>= answered)

/-- One attempt at a patch: the answer, and what it means unless it is a conflict. -/
def attemptPatch (p : PipelineRun) (body : String) (missing : Failure) :
    Client (Response × Option (Except Failure Json)) := do
  let response ← Client.send (.mergePatch (p.config.resourcePath .pipelineRun p.name) body)
  return (response, patched missing response)

/-- Sends a patch, and after each conflict, as long as there are retries, pauses and sends it again.
-/
def sendPatch (p : PipelineRun) (body : String) (missing : Failure) : Nat → Client Json
  | 0 => do
    match ← p.attemptPatch body missing with
    | (_, some outcome) => Client.ofExcept outcome
    | (response, none) => throw (.apiError response.status response.body)
  | retries + 1 => do
    match ← p.attemptPatch body missing with
    | (_, some outcome) => Client.ofExcept outcome
    | (_, none) =>
      Client.ofDialogue (Except.ok <$> Dialogue.sleep p.config.conflict.delay)
      p.sendPatch body missing retries

/-- Sends a patch with the configured number of retries. -/
def update (p : PipelineRun) (patch : Json) (missing : String) : Client Json :=
  p.sendPatch patch.render (.notFound missing) p.config.conflict.maxRetries

/-- Asks the server to cancel the pipeline run. -/
def cancel (p : PipelineRun) : Client Json :=
  p.update (p.patch [] [("status", .text "PipelineRunCancelled")])
    ("Pipeline run '" ++ p.name ++ "' can't be cancelled, because it doesn't exist")

def updateLabels (p : PipelineRun) (labels : Table String) : Client Json :=
  p.update (p.patch [("labels", .ofLabels labels)] [])
    ("Can't update labels on pipeline run '" ++ p.name ++ "', because it doesn't exist")

def updateAnnotations (p : PipelineRun) (annotations : Table String) : Client Json :=
  p.update (p.patch [("annotations", .ofLabels annotations)] [])
    ("Can't update annotations on pipeline run '" ++ p.name ++ "', because it doesn't exist")

end PipelineObserver.PipelineRun
