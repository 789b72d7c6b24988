import HeartbeatMesh.Failure

/-!
# Arguments of the shell

The options that the shell can be started with, and how they change the configuration that has been
loaded.

An option takes its value from the same argument, after `=` or directly after its letter, or from
the next one. A value in an argument of its own is looked at when the next option begins or the
arguments end, so a problem of an argument in between comes first. Asking for help or for the
version ends the reading.
-/

namespace HeartbeatMesh.Shell

/-! ## Options -/

/-- What the arguments ask for. -/
structure Options where
  config : Option String := none
  nodes : Option Nat := none
  logLevel : Option String := none
  interval : Option Float := none
  deriving Repr, DecidableEq

/-- The options. -/
inductive Switch where
  | config
  | nodes
  | logLevel
  | interval
  | help
  | version
  deriving Repr, DecidableEq

/-- The long name of an option. -/
def Switch.name : Switch → String
  | .config => "config"
  | .nodes => "nodes"
  | .logLevel => "log-level"
  | .interval => "heartbeat-interval"
  | .help => "help"
  | .version => "version"

/-- All options. -/
def Switch.all : List Switch := [.config, .nodes, .logLevel, .interval, .help, .version]

/-- The option of a long name. -/
def Switch.ofName? (name : String) : Option Switch := Switch.all.find? (·.name = name)

/-- The option of a letter. -/
def Switch.ofLetter? (c : Char) : Option Switch :=
  if c = 'c' then some .config
  else if c = 'n' then some .nodes
  else if c = 'h' then some .help
  else if c = 'V' then some .version
  else none

/-- Whether an option takes a value. -/
def Switch.takesValue : Switch → Bool
  | .help | .version => false
  | _ => true

/-- Why arguments cannot be used. -/
inductive UsageError where
  | unknownArgument (argument : String)
  /-- An option without the value it needs. -/
  | missingValue (option : Switch)
  /-- A value that the option cannot take. -/
  | invalidValue (option : Switch) (value : String)
  | repeated (option : Switch)
  /-- A value for an option that takes none. -/
  | unexpectedValue (option : Switch)
  deriving Repr, DecidableEq

def UsageError.message : UsageError → String
  | .unknownArgument argument => s!"unexpected argument '{argument}' found"
  | .missingValue option => s!"a value is required for '--{option.name}' but none was supplied"
  | .invalidValue option value => s!"invalid value '{value}' for '--{option.name}'"
  | .repeated option => s!"the argument '--{option.name}' cannot be used multiple times"
  | .unexpectedValue option =>
    s!"unexpected value for '--{option.name}' found; no more were expected"

/-- Why reading the arguments ends without options. -/
inductive Stop where
  | help
  | version
  | usage (error : UsageError)
  deriving Repr, DecidableEq

/-- An unsigned number below `2 ^ 64`: decimal digits, perhaps after a plus sign. -/
def readCount? (text : String) : Option Nat :=
  let cs := text.toList
  let ds := if cs.head? = some '+' then cs.drop 1 else cs
  if ds.isEmpty ∨ ¬ ds.all Char.isDigit then none
  else some (Decimal.natOfDigits ds) |>.filter (· < UInt64.size)

/-! ## Reading -/

/-- The state of reading: the options so far, and the option that has begun last, with its value if
that has been read. -/
structure Reading where
  options : Options := {}
  pending : Option (Switch × Option String) := none
  deriving Repr, DecidableEq

namespace Reading

/-- Gives an option its value. -/
def assign (r : Reading) (option : Switch) (value : Option String) : Except Stop Reading :=
  let o := r.options
  let fail (e : UsageError) : Except Stop Reading := .error (.usage e)
  match option, value with
  | .help, _ => .error .help
  | .version, _ => .error .version
  | option, none => fail (.missingValue option)
  | .config, some v =>
    if o.config.isSome then fail (.repeated .config)
    else if v = "" then fail (.missingValue .config)
    else .ok { r with options := { o with config := some v } }
  | .nodes, some v =>
    if o.nodes.isSome then fail (.repeated .nodes)
    else
      match readCount? v with
      | some n => .ok { r with options := { o with nodes := some n } }
      | none => fail (.invalidValue .nodes v)
  | .logLevel, some v =>
    if o.logLevel.isSome then fail (.repeated .logLevel)
    else .ok { r with options := { o with logLevel := some v } }
  | .interval, some v =>
    if o.interval.isSome then fail (.repeated .interval)
    else
      match Decimal.read? v with
      | some x => .ok { r with options := { o with interval := some x } }
      | none => fail (.invalidValue .interval v)

/-- Deals with the option that has begun last. -/
def settle (r : Reading) : Except Stop Reading :=
  match r.pending with
  | none => .ok r
  | some (option, value) => { r with pending := none }.assign option value

/-- Begins an option, with the value of its own argument if there is one. -/
def start (r : Reading) (option : Switch) (attached : Option String) : Except Stop Reading := do
  let r ← r.settle
  if option.takesValue && attached.isNone then return { r with pending := some (option, none) }
  else r.assign option attached

/-- Reads the letters of an argument with one dash. -/
def letters (r : Reading) : List Char → Except Stop Reading
  | [] => .ok r
  | c :: rest =>
    match Switch.ofLetter? c with
    | none => .error (.usage (.unknownArgument (String.ofList ['-', c])))
    | some option =>
      if option.takesValue then
        match rest with
        | [] => r.start option none
        | '=' :: value => r.start option (some (String.ofList value))
        | value => r.start option (some (String.ofList value))
      else do
        let r ← r.start option none
        r.letters rest

/-- Reads an argument with two dashes, of which `cs` is what follows them. -/
def long (r : Reading) (cs : List Char) : Except Stop Reading :=
  let name := cs.takeWhile (· ≠ '=')
  let attached := match cs.dropWhile (· ≠ '=') with
    | _ :: value => some (String.ofList value)
    | [] => none
  match Switch.ofName? (String.ofList name) with
  | none => .error (.usage (.unknownArgument ("--" ++ String.ofList name)))
  | some option =>
    if !option.takesValue && attached.isSome then .error (.usage (.unexpectedValue option))
    else r.start option attached

/-- Reads arguments to their end. After two dashes alone nothing may follow. -/
def arguments (r : Reading) : List String → Except Stop Reading
  | [] => r.settle
  | argument :: rest =>
    match argument.toList with
    | ['-', '-'] =>
      match rest with
      | [] => r.settle
      | next :: _ => .error (.usage (.unknownArgument next))
    | '-' :: '-' :: cs => do
      let r ← r.long cs
      r.arguments rest
    | '-' :: c :: cs => do
      let r ← r.letters (c :: cs)
      r.arguments rest
    | _ =>
      match r.pending with
      | some (option, none) =>
        { r with pending := some (option, some argument) }.arguments rest
      | _ => .error (.usage (.unknownArgument argument))

end Reading

/-- The options that arguments ask for. -/
def Options.parse (arguments : List String) : Except Stop Options := do
  let r ← ({} : Reading).arguments arguments
  return r.options

/-! ## Applying options -/

/-- Changes a configuration as the options ask. A timeout that is shorter than a new interval
becomes twice the interval. -/
def Options.apply (o : Options) (c : Config) : Config :=
  let mesh := c.mesh
  let mesh := { mesh with initialNodes := o.nodes.getD mesh.initialNodes }
  let mesh := match o.interval with
    | none => mesh
    | some interval =>
      { mesh with
        interval
        timeout := if mesh.timeout < interval then interval * 2.0 else mesh.timeout }
  { c with mesh, logging := { c.logging with level := o.logLevel.getD c.logging.level } }

/-- The configuration that the shell is started with. -/
def Options.resolve (o : Options) (files : Files) (userDirectory : Option String) :
    Except ConfigError Config := do
  let c ← Config.load files o.config userDirectory
  (o.apply c).checked

/-! ## Answers to help and version -/

/-- The answer to a request for the version. -/
def versionText : String := "mesh-swarm 0.1.0\n"

/-- The answer to a request for help. -/
def usageText : String :=
  "Peer-to-peer cluster membership and leader election over a shared broadcast bus\n\n" ++
  "Usage: swarm [OPTIONS]\n\n" ++
  "Options:\n" ++
  "  -c, --config <CONFIG>                          Path to a YAML configuration file\n" ++
  "  -n, --nodes <NODES>                            Number of nodes to start with\n" ++
  "      --log-level <LOG_LEVEL>                    Log level, overridden by RUST_LOG\n" ++
  "      --heartbeat-interval <HEARTBEAT_INTERVAL>  Seconds between heartbeats\n" ++
  "  -h, --help                                     Print help\n" ++
  "  -V, --version                                  Print version\n"

end HeartbeatMesh.Shell
