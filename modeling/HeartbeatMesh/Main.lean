import HeartbeatMesh.Shell.Program

/-!
# The command line

The live shell: it takes its arguments, files and input from the system, reads the time when a line
arrives and draws what is random. What follows from them is said by `HeartbeatMesh.Shell.Program`.

The mesh only shows itself when a command asks for it, so it is brought up to date then.
-/

namespace HeartbeatMesh.Shell.Live

/-! ## Files -/

/-- A failure of the system as a fault of a file. -/
def faultOf : IO.Error → FileFault
  | .noFileOrDirectory _ _ _ => .notFound
  | .alreadyExists _ _ _ => .alreadyExists
  | .inappropriateType _ code details =>
    if code = 20 then .notDirectory
    else if code = 21 then .isDirectory
    else .other details
  | error => .other (toString error)

/-- Reads a file. -/
def readFile (path : String) : IO (Except FileFault Bytes) := do
  try
    return .ok (← IO.FS.readBinFile path).data.toList
  catch error => return .error (faultOf error)

/-- Whether a name stands for anything. -/
def isThere (path : String) : IO Bool := do
  match ← readFile path with
  | .error .notFound | .error .notDirectory => return false
  | _ => return true

/-- The directory of the user's configuration files. -/
def userDirectory : IO (Option String) := do
  match ← IO.getEnv "XDG_CONFIG_HOME" with
  | some directory => if directory.startsWith "/" then return some directory else fromHome
  | none => fromHome
where
  fromHome : IO (Option String) := return (← IO.getEnv "HOME").map (· ++ "/.config")

/-- Loads the configuration that the options ask for. -/
def loadConfig (options : Options) : IO (Except ConfigError Config) := do
  let directory ← userDirectory
  let there ← (Config.localPath :: (directory.map Config.userPath).toList).filterM isThere
  let loaded ← match Config.source? options.config directory there.contains with
    | some path => pure (Config.ofFile path (← readFile path))
    | none => pure ({} : Config).checked
  return loaded.bind fun config => (options.apply config).checked

/-- Makes the directory of the log, if one is configured. -/
def makeLogDirectory (logging : LogConfig) : IO (Option Failure) := do
  match logging.directory with
  | none => return none
  | some directory =>
    try
      IO.FS.createDirAll directory
      return openFailure? directory
    catch error => return some (.io (faultOf error).message)

/-! ## The session -/

/-- Shows a text at once. -/
def display (text : String) : IO Unit := do
  let output ← IO.getStdout
  output.putStr text
  output.flush

/-- Says how a run has ended, if there is something to say, and gives its exit status. -/
def conclude (ending : Ending) : IO UInt32 := do
  match ending with
  | .finished => pure ()
  | .misused error => IO.eprintln ("error: " ++ error.message)
  | .failed failure => IO.eprintln ("Error: " ++ failure.message)
  | .aborted => IO.eprintln "the capacity of the bus is too large"
  return ending.status.toUInt32

/-- Reads the bytes of a line with the line feed that ends it. -/
partial def readLine (input : IO.FS.Stream) (line : ByteArray := .empty) : IO Bytes := do
  let next ← input.read 1
  let line := line ++ next
  if next.isEmpty || next.data.back? = some 0x0A then return line.data.toList
  else readLine input line

/-- Serves lines until the run ends; `began` is the time at which it has begun. -/
partial def serve (input : IO.FS.Stream) (began : Nat) (s : Session Xoshiro) : IO Ending := do
  let line ← readLine input
  if line.isEmpty then return .finished
  match (s.advanceTo ((← IO.monoNanosNow) - began)).serve line with
  | (.shown text, s) =>
    display text
    serve input began s
  | (.ended ending, _) => return ending

/-- Runs a session. Seeds follow one another from a random one. -/
def run (config : Config) : IO Ending := do
  let seed := (← IO.getRandomBytes 8).data.foldl (fun n b => 256 * n + b.toUInt64) 0
  let began ← IO.monoNanosNow
  let newcomers (n : Nat) := Newcomer.ofSeed (seed + n.toUInt64)
  match Session.ofConfig config (Nanoseconds.toSeconds began) newcomers with
  | .error ending => return ending
  | .ok s =>
    display greeting
    serve (← IO.getStdin) began s

/-- Runs the shell with its arguments and gives its exit status. -/
def start (arguments : List String) : IO UInt32 := do
  match Options.parse arguments with
  | .error stop =>
    display stop.transcript.output
    conclude stop.transcript.ending
  | .ok options =>
    match ← loadConfig options with
    | .error error => conclude (.failed (.config error))
    | .ok config =>
      match ← makeLogDirectory config.logging with
      | some failure => conclude (.failed failure)
      | none => conclude (← run config)

end HeartbeatMesh.Shell.Live

/-- The shell. -/
def main (arguments : List String) : IO UInt32 := HeartbeatMesh.Shell.Live.start arguments
