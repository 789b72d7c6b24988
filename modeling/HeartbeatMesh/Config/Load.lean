import HeartbeatMesh.Config.Document
import HeartbeatMesh.Files

/-!
# Loading a configuration

A configuration comes from one file: the one that is asked for, else `swarm.yml` in the working
directory, else the one in the user's configuration directory. Without any of them the defaults
hold. Whatever is loaded has to be valid.
-/

namespace HeartbeatMesh

/-- Why there is no configuration. -/
inductive ConfigError where
  | unreadable (path : String) (fault : FileFault)
  | unparsable (path : String) (error : Yaml.Error)
  | invalid (defect : Config.Defect)
  /-- The log cannot be set up. -/
  | log (text : String)
  deriving Repr, DecidableEq

def ConfigError.message : ConfigError → String
  | .unreadable path fault => s!"Failed to read {path}: {fault.message}"
  | .unparsable path error => s!"Failed to parse {path}: {error.message}"
  | .invalid defect => defect.message
  | .log text => text

namespace Config

/-- The name of the configuration file in the working directory. -/
def localPath : String := "swarm.yml"

/-- The name of the configuration file in the user's configuration directory. -/
def userPath (directory : String) : String := directory ++ "/mesh-swarm/swarm.yml"

/-- The file to load: the one that is asked for, or the first of the usual ones that is there. -/
def source? (requested userDirectory : Option String) (isThere : String → Bool) : Option String :=
  match requested with
  | some path => some path
  | none => (localPath :: (userDirectory.map userPath).toList).find? isThere

/-- A valid configuration, or its first defect as an error. -/
def checked (c : Config) : Except ConfigError Config :=
  match c.validate with
  | .ok c => .ok c
  | .error defect => .error (.invalid defect)

/-- The configuration in a file, given what reading it has brought. -/
def ofFile (path : String) (content : Except FileFault Bytes) : Except ConfigError Config :=
  match content with
  | .error fault => .error (.unreadable path fault)
  | .ok content =>
    match Text.ofUtf8? content with
    | none => .error (.unreadable path .notUtf8)
    | some text =>
      match Config.parse text with
      | .error error => .error (.unparsable path error)
      | .ok c => c.checked

/-- Loads a configuration. -/
def load (files : Files) (requested userDirectory : Option String) : Except ConfigError Config :=
  match source? requested userDirectory files.has with
  | some path => ofFile path (files.read path)
  | none => ({} : Config).checked

end Config

end HeartbeatMesh
