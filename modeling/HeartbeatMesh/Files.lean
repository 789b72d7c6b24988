import HeartbeatMesh.Text.Utf8

/-!
# Files

The part of a file system that a program sees from its working directory: which names are files,
with what content, and which are directories. A name is found by walking along its parts, and the
walk says what is wrong when it fails. A directory is made step by step: where one on the way is
missing, that one is made first.
-/

namespace HeartbeatMesh

/-- Why a file cannot be used. -/
inductive FileFault where
  | notFound
  | alreadyExists
  | notDirectory
  | isDirectory
  | nameTooLong
  | nulInName
  | notUtf8
  | other (text : String)
  deriving Repr, DecidableEq

def FileFault.message : FileFault → String
  | .notFound => "No such file or directory (os error 2)"
  | .alreadyExists => "File exists (os error 17)"
  | .notDirectory => "Not a directory (os error 20)"
  | .isDirectory => "Is a directory (os error 21)"
  | .nameTooLong => "File name too long (os error 36)"
  | .nulInName => "file name contained an unexpected NUL byte"
  | .notUtf8 => "stream did not contain valid UTF-8"
  | .other text => text

/-- What a name stands for. -/
inductive FileEntry where
  | file (content : Bytes)
  | directory
  deriving Repr, DecidableEq

/-! ## Places -/

/-- A place that a name leads to. -/
inductive Place where
  /-- The working directory or below it, by the parts that lead there. -/
  | inside (parts : List String)
  /-- A directory that the working directory lies in. -/
  | above
  /-- Somewhere else, where nothing is known to be. -/
  | elsewhere
  deriving Repr, DecidableEq

namespace Place

/-- The directory that a place lies in. -/
def parent : Place → Place
  | .inside [] => .above
  | .inside parts => .inside parts.dropLast
  | .above => .above
  | .elsewhere => .elsewhere

/-- The place of a name in a directory. -/
def child (place : Place) (part : String) : Place :=
  match place with
  | .inside parts => .inside (parts ++ [part])
  | _ => .elsewhere

end Place

/-- The files and directories below the working directory, by their shortest names. -/
structure Files where
  entries : List (String × FileEntry) := []
  deriving Repr

namespace Files

/-- The parts of a name. -/
def parts (name : String) : List String := (name.split '/').toStringList

/-- The parts of a name without those that lead nowhere. -/
def steps (name : List String) : List String := name.filter fun part => part ≠ "" ∧ part ≠ "."

/-- Where the walk along a name begins. -/
def origin (name : String) : Place := if name.startsWith "/" then .above else .inside []

/-- The name that parts make up. -/
def join (parts : List String) : String := "/".intercalate parts

/-- What is known to stand at a place. -/
def entryAt? (fs : Files) : Place → Option FileEntry
  | .inside [] | .above => some .directory
  | .inside parts => fs.entries.lookup (join parts)
  | .elsewhere => none

/-- Whether a place is known to be a file. -/
def isFile (fs : Files) (place : Place) : Bool :=
  match fs.entryAt? place with
  | some (.file _) => true
  | _ => false

/-- Puts an entry at a place below the working directory, instead of what was there. -/
def put (fs : Files) (place : Place) (entry : FileEntry) : Files :=
  match place with
  | .inside parts => ⟨(join parts, entry) :: fs.entries.filter (·.1 ≠ join parts)⟩
  | _ => fs

/-! ## Walking -/

/-- The largest number of bytes of a name. -/
def maxNameLength : Nat := 4095

/-- The largest number of bytes of a part of a name. -/
def maxPartLength : Nat := 255

/-- Whether a name can be looked for at all. -/
def checkName (name : String) : Except FileFault Unit :=
  if name.toList.contains '\x00' then .error .nulInName
  else if maxNameLength < name.utf8ByteSize then .error .nameTooLong
  else .ok ()

/-- Walks from a place along parts of a name, as far as there is something. -/
def walk (fs : Files) (place : Place) : List String → Except FileFault Place
  | [] => .ok place
  | part :: rest =>
    if fs.isFile place then .error .notDirectory
    else if part = "" ∨ part = "." then fs.walk place rest
    else if part = ".." then fs.walk place.parent rest
    else if maxPartLength < part.utf8ByteSize then .error .nameTooLong
    else
      let next := place.child part
      if (fs.entryAt? next).isNone then .error .notFound else fs.walk next rest

/-- What a name stands for. -/
def find (fs : Files) (name : String) : Except FileFault FileEntry := do
  checkName name
  if name = "" then .error .notFound
  else
    match fs.entryAt? (← fs.walk (origin name) (parts name)) with
    | some entry => return entry
    | none => .error .notFound

/-- Whether a name stands for anything. -/
def has (fs : Files) (name : String) : Bool :=
  match fs.find name with
  | .ok _ => true
  | .error _ => false

/-- The content of a file. -/
def read (fs : Files) (name : String) : Except FileFault Bytes :=
  match fs.find name with
  | .ok (.file content) => .ok content
  | .ok .directory => .error .isDirectory
  | .error fault => .error fault

/-! ## Making directories -/

/-- Goes along steps and makes the directories that are missing. Outside the working directory that
is taken to succeed, and nothing is kept of it. Answers also the place at the end. A file is in the
way of what is made, that is at the last step and once a directory has been made; before that the
way is known and cannot lead through a file. -/
def makeAlong (fs : Files) (place : Place) (made : Bool) :
    List String → Except FileFault (Files × Place)
  | [] => .ok (fs, place)
  | step :: rest =>
    match fs.walk place [step] with
    | .ok next =>
      if fs.isFile next ∧ (made ∨ rest = []) then .error .alreadyExists
      else fs.makeAlong next made rest
    | .error .notFound =>
      (fs.put (place.child step) .directory).makeAlong (place.child step) true rest
    | .error fault => .error fault

/-- Makes a directory, together with those it lies in. If the name ends in a part that leads nowhere
the directory itself has to be there already; only those it lies in are made. -/
def makePath (fs : Files) (start : Place) (name : List String) : Except FileFault (Files × Place) :=
  let name := (name.reverse.dropWhile (· = "")).reverse
  if name.getLast? = some "." then
    match fs.walk start name with
    | .ok place => .ok (fs, place)
    | .error .notFound => do
      let known := (steps name).length - 1
      let (fs, place) ← fs.makeAlong start false ((steps name).take known)
      return (fs, ← fs.walk place ((steps name).drop known ++ ["."]))
    | .error fault => .error fault
  else fs.makeAlong start false (steps name)

/-- Makes a directory, together with those it lies in. -/
def makeDirectories (fs : Files) (name : String) : Except FileFault Files := do
  checkName name
  return (← fs.makePath (origin name) (parts name)).1

/-- Adds a file, or a directory if the name ends in a slash, together with the directories it lies
in. Nothing is added outside the working directory. -/
def add (fs : Files) (name : String) (content : Bytes) : Files :=
  match fs.makePath (origin name) (steps (parts name).dropLast), (parts name).getLast? with
  | .ok (fs, place), some part =>
    if part = "" then fs else fs.put (place.child part) (.file content)
  | _, _ => fs

end Files

end HeartbeatMesh
