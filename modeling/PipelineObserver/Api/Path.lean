import PipelineObserver.Config.Basic
import PipelineObserver.Resource.Kind
/-!
The paths under which the server keeps resources, watches and logs.
-/
namespace PipelineObserver.Config

def groupPath (c : Config) : ApiGroup → String
  | .pipelines => "apis/" ++ c.pipelinesApiVersion
  | .core => "api/v1"

def collectionPath (c : Config) (k : Kind) : String :=
  c.groupPath k.group ++ "/namespaces/" ++ c.namespace ++ "/" ++ k.plural

def resourcePath (c : Config) (k : Kind) (name : String) : String :=
  c.collectionPath k ++ "/" ++ name

def watchPath (c : Config) (k : Kind) (name : String) : String :=
  c.groupPath k.group ++ "/watch/namespaces/" ++ c.namespace ++ "/" ++ k.plural ++ "/" ++ name ++ "/"

def logPath (c : Config) (pod : String) : String := c.resourcePath .pod pod ++ "/log"

end PipelineObserver.Config
