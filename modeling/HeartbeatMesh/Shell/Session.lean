import HeartbeatMesh.Mesh.Timeline
import HeartbeatMesh.Shell.Command
import HeartbeatMesh.Shell.Newcomer

/-!
# A session of the shell

A session holds a mesh and the supply of names for the nodes that are still to come. Its commands
change the mesh and answer with a text.
-/

namespace HeartbeatMesh.Shell

/-- A session. The newcomers are numbered, and `drawn` of them have been used up. -/
structure Session (γ : Type) where
  timeline : Timeline γ
  /-- Seconds after which a silent peer is reported. -/
  timeout : Float
  newcomers : Nat → Newcomer γ
  drawn : Nat := 0

/-- What a command leads to. -/
inductive Reply where
  | output (text : String)
  /-- The session is over. -/
  | exit
  deriving Repr, DecidableEq

/-- The list of the commands. -/
def helpText : String :=
  "Commands:\n" ++
  "  add            start a new node\n" ++
  "  remove <id>    stop a node\n" ++
  "  list           list running nodes\n" ++
  "  status         show each node's role and election state\n" ++
  "  quit           stop all nodes and exit"

/-- A failure of the table of nodes, as it is shown. -/
def failureOf : TableError → Failure
  | .nodeExists nodeId => .nodeExists nodeId
  | .nodeNotFound nodeId => .nodeNotFound nodeId

namespace Session

variable {γ : Type}

/-- A session without nodes, `none` if its bus cannot have the capacity. -/
def new? (config : MeshConfig) (origin : Float) (newcomers : Nat → Newcomer γ) :
    Option (Session γ) :=
  (Timeline.new? config origin).map fun timeline =>
    { timeline, timeout := config.timeout, newcomers }

/-- Starts the next newcomer whose id is free, at a moment at which the wall time is `origin`. Since
its id is free the table does not refuse it. -/
def addNode (s : Session γ) (origin : Float) : String × Session γ :=
  let k := firstFree s.newcomers s.timeline.mesh.ids s.drawn
  let n := s.newcomers k
  let timeline := (s.timeline.start n.nodeId origin n.requestId n.source).toOption.getD s.timeline
  (n.nodeId, { s with timeline, drawn := k + 1 })

/-! ## Status -/

/-- Fills a text with spaces up to a width. -/
def padTo (width : Nat) (text : String) : String :=
  text ++ String.ofList (List.replicate (width - text.length) ' ')

/-- A list of ids with a label, nothing if it is empty. -/
def labelled (label : String) (ids : List String) : String :=
  if ids.isEmpty then "" else s!" {label}=" ++ ",".intercalate ids

/-- The status of a node. -/
def statusLine (s : Session γ) (n : Node) : String :=
  s!"{n.id} {padTo 20 n.phase.describe} peers={n.view.size - 1} " ++
  s!"candidates={n.candidates.size} votes={n.votes.size}" ++
  labelled "masters" n.knownMasters ++
  labelled "stale" ((s.timeline.stalePeers? n.id s.timeout).getD [])

/-- The status of all nodes. -/
def status (s : Session γ) : String :=
  match s.timeline.mesh.nodes with
  | [] => "No nodes running"
  | nodes => "\n".intercalate (nodes.map s.statusLine)

/-- The list of the running nodes. -/
def listing (s : Session γ) : String :=
  "\n".intercalate ("Nodes:" :: s.timeline.mesh.ids.map (" - " ++ ·))

/-! ## Commands -/

/-- Runs a command at a moment at which the wall time is `origin`. -/
def execute (s : Session γ) (origin : Float) : Command → Except Failure Reply × Session γ
  | .add =>
    let (nodeId, s) := s.addNode origin
    (.ok (.output ("Started node " ++ nodeId)), s)
  | .remove nodeId =>
    match s.timeline.stop nodeId with
    | .ok timeline => (.ok (.output ("Stopped node " ++ nodeId)), { s with timeline })
    | .error e => (.error (failureOf e), s)
  | .list => (.ok (.output s.listing), s)
  | .status => (.ok (.output s.status), s)
  | .help => (.ok (.output helpText), s)
  | .quit => (.ok .exit, s)

/-- Runs the command on a line. -/
def interpret (s : Session γ) (origin : Float) (line : String) :
    Except Failure Reply × Session γ :=
  match Command.parse line with
  | .error e => (.error (.command e.message), s)
  | .ok command => s.execute origin command

end Session

end HeartbeatMesh.Shell
