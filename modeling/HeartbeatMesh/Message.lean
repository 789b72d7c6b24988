import Std.Data.ExtTreeMap

/-!
# Messages

What the nodes of a mesh tell each other: that they live, what they know of the others, and the
steps of an election. Ids are texts, times are seconds of the sender's clock.
-/

namespace HeartbeatMesh

/-- A collection by id, in the order of the ids. Two of them are equal if they hold the same. -/
abbrev IdMap (α : Type) := Std.ExtTreeMap String α

/-- What is known of a node: the time of its last heartbeat and whether it is master. -/
structure NodeRecord where
  nodeId : String
  heartbeat : Float
  isMaster : Bool := false
  deriving Repr, DecidableEq

/-- A node that puts itself up for mastership, with the time of its nomination. -/
structure Candidacy where
  nodeId : String
  timestamp : Float
  deriving Repr, DecidableEq

/-- The messages of the mesh. The sender stands on the envelope. -/
inductive Message where
  /-- The sender's own record. -/
  | heartbeat (record : NodeRecord)
  /-- Asks the others for their view. -/
  | stateRequest (requestId : String)
  /-- The sender's view, in answer to a request. -/
  | stateResponse (requestId : String) (nodes : IdMap NodeRecord)
  | candidacy (candidate : Candidacy)
  /-- The sender votes for a candidate. -/
  | vote (candidate : String)
  /-- The sender has counted the votes. -/
  | elected (winner : String)
  deriving DecidableEq

end HeartbeatMesh
