import HeartbeatMesh.Config.Load
import HeartbeatMesh.Message.Codec

/-!
# Failures

Whatever can go wrong in the shell and its mesh, as it is shown to the user.
-/

namespace HeartbeatMesh

/-- Something that went wrong. -/
inductive Failure where
  /-- There is no configuration that could be used. -/
  | config (error : ConfigError)
  | transport (text : String)
  | codec (error : CodecError)
  /-- A message that could be read but not applied. -/
  | protocol (text : String)
  | nodeNotFound (nodeId : String)
  | nodeExists (nodeId : String)
  | command (text : String)
  | io (text : String)
  | json (error : Wire.ReadError)
  | yaml (text : String)
  | task (text : String)
  deriving Repr, DecidableEq

/-- How a failure is shown. -/
def Failure.message : Failure → String
  | .config error => "Configuration error: " ++ error.message
  | .transport text => "Transport error: " ++ text
  | .codec error => "Codec error: " ++ error.message
  | .protocol text => "Protocol error: " ++ text
  | .nodeNotFound nodeId => "Node not found: " ++ nodeId
  | .nodeExists nodeId => "Node already running: " ++ nodeId
  | .command text => "Invalid command: " ++ text
  | .io text => "IO error: " ++ text
  | .json error => "JSON error: " ++ error.message
  | .yaml text => "YAML error: " ++ text
  | .task text => "Node task failed: " ++ text

end HeartbeatMesh
