/-!
The kinds of resource that are observed, and where the server keeps them.
-/
namespace PipelineObserver

/-- Pipeline runs and task runs belong to the pipelines group, whose version is configured; pods
belong to the core group. -/
inductive ApiGroup where
  | pipelines
  | core
  deriving DecidableEq

inductive Kind where
  -- One execution of a pipeline of several tasks.
  | pipelineRun
  -- One execution of a task, made of steps.
  | taskRun
  -- The pod that hosts the containers of a task run's steps.
  | pod
  deriving DecidableEq

namespace Kind

def name : Kind → String
  | pipelineRun => "PipelineRun"
  | taskRun => "TaskRun"
  | pod => "Pod"

def plural : Kind → String
  | pipelineRun => "pipelineruns"
  | taskRun => "taskruns"
  | pod => "pods"

def group : Kind → ApiGroup
  | pipelineRun | taskRun => .pipelines
  | pod => .core

def all : List Kind := [pipelineRun, taskRun, pod]

end Kind

end PipelineObserver
