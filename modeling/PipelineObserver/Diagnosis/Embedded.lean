import PipelineObserver.Diagnosis.Record
import PipelineObserver.Json.Printer
import PipelineObserver.Resource.Snapshot
/-!
Values that may be given as JSON inside a string, and the errors of plugins that a task publishes in
such values.
-/
namespace PipelineObserver

/-- The value that a string spells in JSON; any other string, and any other value, stays as it is.
-/
def Json.decoded : Json → Json
  | .text s => (Json.parse? s).getD (.text s)
  | v => v

/-- An object, given as it is or spelled in a string. -/
def Json.embeddedObject? (v : Json) : Option (Table Json) := v.decoded.object?

namespace Diagnosis

/-- The name of the result that carries the errors of plugins. -/
def pluginResult : String := "annotations"

/-- The errors by plugin, two objects deep inside the result's value. Each object may be spelled in
a string. -/
def errorsByPlugin? (v : Json) : Option (Table Json) := do
  let annotations ← v.embeddedObject?
  let metadata ← (← Table.get? "plugins-metadata" annotations).embeddedObject?
  (← Table.get? "errors" metadata).embeddedObject?

/-- The error of one plugin; what is not a string is shown as JSON. -/
def pluginError (plugin : String) : Json → ErrorRecord
  | .text detail => .plugin plugin detail
  | other => .plugin plugin other.render

/-- The errors of plugins that a task run reports, by the names of the plugins. -/
def pluginErrors (s : Snapshot) : List ErrorRecord :=
  match (s.result? pluginResult).bind errorsByPlugin? with
  | some errors => errors.map fun (plugin, error) => pluginError plugin error
  | none => []

end Diagnosis

end PipelineObserver
