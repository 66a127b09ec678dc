/-!
Error records: the parts of the explanation of a failure, in the order in which they were found.
-/
namespace PipelineObserver

inductive ErrorScope where
  | plugin
  | task
  | step
  | pipeline
  deriving DecidableEq

namespace ErrorScope

def name : ErrorScope → String
  | plugin => "Plugin"
  | task => "Task"
  | step => "Step"
  | pipeline => "Pipeline"

def display : ErrorScope → String
  | plugin => "plugin"
  | task => "task"
  | step => "step"
  | pipeline => "pipeline run"

end ErrorScope

structure ErrorRecord where
  scope : ErrorScope
  -- The name of a plugin, a task or a pipeline run, or a task and a step.
  identifier : String
  detail : String
  deriving DecidableEq

namespace ErrorRecord

def plugin (name detail : String) : ErrorRecord := ⟨.plugin, name, detail⟩

def task (name detail : String) : ErrorRecord := ⟨.task, name, detail⟩

/-- A step is named with its task in front. -/
def step (task name detail : String) : ErrorRecord := ⟨.step, task ++ "/" ++ name, detail⟩

def pipeline (name detail : String) : ErrorRecord := ⟨.pipeline, name, detail⟩

def display (r : ErrorRecord) : String :=
  "Error in " ++ r.scope.display ++ " " ++ r.identifier ++ ": " ++ r.detail ++ ";"

/-- All records in words, each on a line of its own. -/
def render (records : List ErrorRecord) : String :=
  String.join (records.map fun r => r.display ++ "\n")

end ErrorRecord

end PipelineObserver
