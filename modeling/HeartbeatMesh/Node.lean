import HeartbeatMesh.Correlator
import HeartbeatMesh.Message

/-!
# A node of the mesh

A node keeps its own record, its view of all nodes it has heard of (itself included), and the
election round that is open, if one is: who stands and who has voted for whom. What others learn of
it are queries on this state.

The view goes by the key under which a record was learned. Candidates and votes go by candidate and
by voter.
-/

namespace HeartbeatMesh

/-- What a node is told about its elections. -/
structure Settings where
  /-- Seconds between two heartbeats. Also the age a candidacy must have before votes are cast. -/
  interval : Float
  /-- Whether unknown nodes in a response are taken into the view. -/
  mergeState : Bool
  deriving Repr, DecidableEq

/-- The state of a node. -/
structure Node where
  self : NodeRecord
  view : IdMap NodeRecord
  /-- The candidacies of the open round, by candidate. -/
  candidates : IdMap Candidacy := ∅
  /-- The votes of the open round: voter and candidate. -/
  votes : IdMap String := ∅
  correlator : Correlator := {}
  settings : Settings
  deriving DecidableEq

/-- What a node is in the eyes of its mesh. -/
inductive Phase where
  | followerUnknownMaster
  | followerWithMaster
  | candidate
  | voted
  | master
  deriving Repr, DecidableEq

/-- The name of a phase in a status line. -/
def Phase.describe : Phase → String
  | .followerUnknownMaster => "follower (no master)"
  | .followerWithMaster => "follower"
  | .candidate => "candidate"
  | .voted => "voted"
  | .master => "MASTER"

namespace Node

/-- A node that knows nobody but itself. -/
def new (nodeId : String) (now : Float) (settings : Settings) : Node :=
  let self : NodeRecord := ⟨nodeId, now, false⟩
  { self, view := (∅ : IdMap NodeRecord).insert nodeId self, settings }

/-! ## Queries -/

/-- The id of the node. -/
def id (n : Node) : String := n.self.nodeId

/-- Whether the view flags a master. -/
def masterKnown (n : Node) : Bool := n.view.values.any (·.isMaster)

/-- Whether anyone stands or has voted. -/
def roundOpen (n : Node) : Bool := !n.candidates.isEmpty || !n.votes.isEmpty

/-- The phase of the node. -/
def phase (n : Node) : Phase :=
  if n.self.isMaster then .master
  else if n.masterKnown then .followerWithMaster
  else if n.votes.contains n.id then .voted
  else if n.candidates.contains n.id then .candidate
  else .followerUnknownMaster

/-- Ids in ascending order. -/
def sortIds (ids : List String) : List String := ids.mergeSort fun a b => decide (a ≤ b)

/-- The ids that the records flagged as master carry. -/
def knownMasters (n : Node) : List String :=
  sortIds ((n.view.values.filter (·.isMaster)).map (·.nodeId))

/-- The ids that the records of others carry whose last heartbeat is more than `timeout` seconds
before `now`. -/
def stalePeers (n : Node) (now timeout : Float) : List String :=
  sortIds ((n.view.values.filter fun r =>
    decide (r.nodeId ≠ n.id) && decide (timeout < now - r.heartbeat)).map (·.nodeId))

end Node

end HeartbeatMesh
