import HeartbeatMesh.Shell.Arguments
import HeartbeatMesh.Shell.Session
import HeartbeatMesh.Text.Blank

/-!
# The shell as a whole

A run of the shell starts from its arguments and the files around it, reads lines of commands and
comes to an end. `Program.attend` is the whole run as a function: each line comes with the instant
of its arrival, and so does an interrupt, and the result is what is shown and how the run ends.
`Program.run` is a run that nothing interrupts.

The pieces are the ones that a live run is made of: what the arguments lead to before a line is
read, and `Session.serve`, which deals with one line.
-/

namespace HeartbeatMesh.Shell

/-- What a session shows first. -/
def greeting : String := helpText ++ "\n"

/-! ## Lines -/

/-- The lines of an input, each with the line feed that ends it. What follows the last line feed is
a line of its own unless nothing does. -/
def linesOf : Bytes → List Bytes
  | [] => []
  | b :: rest =>
    if b = 0x0A then [b] :: linesOf rest
    else
      match linesOf rest with
      | [] => [[b]]
      | line :: lines => (b :: line) :: lines

/-- Lines are the input cut into pieces. -/
theorem linesOf_flatten (bs : Bytes) : (linesOf bs).flatten = bs := by
  induction bs with
  | nil => rfl
  | cons b rest ih =>
    unfold linesOf
    split
    · simp [ih]
    · cases h : linesOf rest with
      | nil => simp_all
      | cons line lines => simp_all

/-- A line without what ends it: a line feed, with the carriage return before it if there is one. -/
def lineContent (line : Bytes) : Bytes :=
  if line.getLast? = some 0x0A then
    let content := line.dropLast
    if content.getLast? = some 0x0D then content.dropLast else content
  else line

/-- The text of a line. -/
def lineText (line : Bytes) : Except Text.Fault String :=
  let content := lineContent line
  match Text.ofUtf8? content with
  | some text => .ok text
  | none => .error ((Text.fault? content).getD ⟨content.length, none⟩)

/-! ## Endings -/

/-- How a run ends. -/
inductive Ending where
  /-- It was asked to end, or its input did. -/
  | finished
  /-- The arguments cannot be used. -/
  | misused (error : UsageError)
  | failed (failure : Failure)
  /-- No bus can have the capacity that the configuration asks for. -/
  | aborted
  deriving Repr, DecidableEq

/-- The exit status that tells an ending. -/
def Ending.status : Ending → Nat
  | .finished => 0
  | .failed _ => 1
  | .misused _ => 2
  | .aborted => 101

/-- What a run has shown, and its ending. -/
structure Transcript where
  output : String
  ending : Ending
  deriving Repr, DecidableEq

/-- What is left to do when the arguments ask for no session. -/
def Stop.transcript : Stop → Transcript
  | .help => ⟨usageText, .finished⟩
  | .version => ⟨versionText, .finished⟩
  | .usage error => ⟨"", .misused error⟩

/-! ## The log -/

/-- The number of bytes of the name of a log file in its directory. The name holds a date. -/
def logNameLength : Nat := "swarm.0000-00-00.log".utf8ByteSize

/-- Whether the name of a log file in the directory is short enough. -/
def fitsLogFile (directory : String) : Bool :=
  let slash := if directory = "" || directory.endsWith "/" then 0 else 1
  directory.utf8ByteSize + slash + logNameLength ≤ Files.maxNameLength

/-- Why no log file can be opened in a directory that is there, if none can. -/
def openFailure? (directory : String) : Option Failure :=
  if fitsLogFile directory then none
  else some (.config (.log ("Failed to create log appender: failed to create initial log file: "
    ++ FileFault.nameTooLong.message)))

/-- Why the log cannot be written, if it cannot. -/
def logFailure? (files : Files) (logging : LogConfig) : Option Failure :=
  match logging.directory with
  | none => none
  | some directory =>
    match files.makeDirectories directory with
    | .error fault => some (.io fault.message)
    | .ok _ => openFailure? directory

/-! ## Serving -/

/-- What comes to a session from outside. -/
inductive Arrival where
  | line (bytes : Bytes)
  | interrupt
  deriving Repr, DecidableEq

/-- How the run goes on after an arrival. -/
inductive Progress where
  /-- It goes on after showing a text. -/
  | shown (output : String)
  | ended (ending : Ending)
  deriving Repr, DecidableEq

namespace Session

variable {γ : Type}

/-- What the clock on the wall shows. -/
def wallTime (s : Session γ) : Float := s.timeline.watch.read s.timeline.now

/-- Lets time pass up to an instant. -/
def advanceTo [WordSource γ] (s : Session γ) (instant : Nanoseconds) : Session γ :=
  { s with timeline := s.timeline.advanceTo instant }

/-- Delivers whatever is unread. -/
def settle (s : Session γ) : Session γ := { s with timeline := s.timeline.settle }

/-- Stops all nodes. -/
def shutdown (s : Session γ) : Session γ := { s with timeline := s.timeline.shutdown }

/-- Starts newcomers, as many as the mesh begins with. -/
def populate (s : Session γ) (count : Nat) : Session γ :=
  (count.repeat (fun s => (s.addNode s.wallTime).2) s).settle

/-- The session that a configuration asks for, with its first nodes. -/
def ofConfig (config : Config) (wallTime : Float) (newcomers : Nat → Newcomer γ) :
    Except Ending (Session γ) :=
  match Session.new? config.mesh wallTime newcomers with
  | none => .error .aborted
  | some s => .ok (s.populate config.mesh.initialNodes)

/-- Serves a line. A blank one does nothing, and one that is no text ends the run at once. -/
def serve (s : Session γ) (line : Bytes) : Progress × Session γ :=
  match lineText line with
  | .error fault => (.ended (.failed (.io fault.message)), s)
  | .ok text =>
    if Text.isBlankLine text then (.shown "", s)
    else
      match s.interpret s.wallTime text with
      | (.ok .exit, s) => (.ended .finished, s.shutdown)
      | (.ok (.output output), s) => (.shown (output ++ "\n"), s.settle)
      | (.error failure, s) => (.shown (failure.message ++ "\n"), s)

/-- Meets an arrival. An interrupt ends the run. -/
def meet (s : Session γ) : Arrival → Progress × Session γ
  | .line line => s.serve line
  | .interrupt => (.ended .finished, s.shutdown)

/-- Meets what arrives at given instants, after `output` has been shown. The end of the input ends
the run. -/
def attend [WordSource γ] (s : Session γ) (output : String) :
    List (Nanoseconds × Arrival) → Transcript × Session γ
  | [] => (⟨output, .finished⟩, s.shutdown)
  | (instant, arrival) :: rest =>
    match (s.advanceTo instant).meet arrival with
    | (.shown text, s) => s.attend (output ++ text) rest
    | (.ended ending, s) => (⟨output, ending⟩, s)

end Session

/-! ## Runs -/

/-- What a run finds when it starts. -/
structure Surroundings (γ : Type) where
  arguments : List String
  files : Files
  userDirectory : Option String
  /-- The time on the wall, in seconds. -/
  wallTime : Float
  newcomers : Nat → Newcomer γ

namespace Program

variable {γ : Type}

/-- What comes before the first line: a session, or the end. -/
def start (w : Surroundings γ) : Except Transcript (Session γ) :=
  match Options.parse w.arguments with
  | .error stop => .error stop.transcript
  | .ok options =>
    match options.resolve w.files w.userDirectory with
    | .error error => .error ⟨"", .failed (.config error)⟩
    | .ok config =>
      match logFailure? w.files config.logging with
      | some failure => .error ⟨"", .failed failure⟩
      | none => (Session.ofConfig config w.wallTime w.newcomers).mapError (⟨"", ·⟩)

/-- A run, given what arrives, and when. -/
def attend [WordSource γ] (w : Surroundings γ) (arrivals : List (Nanoseconds × Arrival)) :
    Transcript :=
  match start w with
  | .error transcript => transcript
  | .ok s => (s.attend greeting arrivals).1

/-- A run, given the lines of its input and the instants at which they arrive. -/
def run [WordSource γ] (w : Surroundings γ) (input : List (Nanoseconds × Bytes)) : Transcript :=
  attend w (input.map fun (instant, line) => (instant, .line line))

end Program

end HeartbeatMesh.Shell
