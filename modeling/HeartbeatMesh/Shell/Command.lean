import HeartbeatMesh.Failure
import HeartbeatMesh.Text.Blank

/-!
# Commands of the shell

A command is one word, `remove` alone taking a second one, the id of the node to remove.
-/

namespace HeartbeatMesh.Shell

/-- A command. -/
inductive Command where
  | add
  | remove (nodeId : String)
  | list
  | status
  | help
  | quit
  deriving Repr, DecidableEq

/-- Why words are no command. -/
inductive CommandError where
  | empty
  | unknown (word : String)
  | missingId
  | tooManyArguments
  deriving Repr, DecidableEq

def CommandError.message : CommandError → String
  | .empty => "Empty command"
  | .unknown word => "Unknown command: " ++ word
  | .missingId => "Please specify a node id to remove"
  | .tooManyArguments => "Too many arguments"

/-- A command with nothing after it. -/
def Command.alone (command : Command) : List String → Except CommandError Command
  | [] => .ok command
  | _ :: _ => .error .tooManyArguments

/-- The command that the words of a line make. -/
def Command.ofWords : List String → Except CommandError Command
  | [] => .error .empty
  | "add" :: rest => Command.add.alone rest
  | "remove" :: [] => .error .missingId
  | "remove" :: nodeId :: rest => (Command.remove nodeId).alone rest
  | "list" :: rest => Command.list.alone rest
  | "status" :: rest => Command.status.alone rest
  | "help" :: rest => Command.help.alone rest
  | "quit" :: rest => Command.quit.alone rest
  | "exit" :: rest => Command.quit.alone rest
  | word :: _ => .error (.unknown word)

/-- The command on a line. -/
def Command.parse (line : String) : Except CommandError Command :=
  Command.ofWords (Text.words line)

end HeartbeatMesh.Shell
