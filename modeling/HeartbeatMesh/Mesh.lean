import HeartbeatMesh.Bus
import HeartbeatMesh.Node.Step

/-!
# A mesh of nodes on one bus

A mesh is a table of nodes that share a bus. Each node reads the bus through a subscription of its
own and takes the words for its votes from a source of its own.

Nothing here decides what happens when: starts, stops, heartbeats and deliveries are steps that may
come in any order (`Mesh.Event`), and a schedule is one way to choose them.
-/

namespace HeartbeatMesh

/-- A running node. -/
structure Member (γ : Type) where
  node : Node
  /-- The words for the node's votes. -/
  source : γ
  /-- The node's subscription to the bus. -/
  subscription : Nat

/-- The nodes that run on a bus, by their ids. -/
structure Mesh (γ : Type) where
  bus : Bus
  settings : Settings
  members : IdMap (Member γ) := ∅

/-- Why the table of nodes stays as it is. -/
inductive TableError where
  | nodeExists (nodeId : String)
  | nodeNotFound (nodeId : String)
  deriving Repr, DecidableEq

namespace Mesh

variable {γ : Type}

/-! ## The table -/

/-- The ids of the running nodes, in ascending order. -/
def ids (m : Mesh γ) : List String := m.members.keys

/-- The running nodes, in the order of their ids. -/
def nodes (m : Mesh γ) : List Node := m.members.values.map (·.node)

/-- A running node. -/
def node? (m : Mesh γ) (nodeId : String) : Option Node := m.members[nodeId]?.map (·.node)

/-- The running nodes that are master in their own records. -/
def masters (m : Mesh γ) : List String := (m.nodes.filter (·.self.isMaster)).map (·.id)

/-! ## Steps -/

/-- The units that carry messages of a node. -/
def unitsOf (nodeId : String) (messages : List Message) : List Bytes :=
  messages.map fun message => (message.encode nodeId).toBytes

/-- Starts a node whose clock shows `now`. The step is the boot of the node, in which it comes into
the table, subscribes and then announces itself. Where a node is entered into the table first and
boots later, the start is its boot. -/
def start (m : Mesh γ) (nodeId : String) (now : Float) (requestId : String) (source : γ) :
    Except TableError (Mesh γ) :=
  if m.members.contains nodeId then .error (.nodeExists nodeId)
  else
    let (subscription, bus) := m.bus.subscribe
    let (node, messages) := (Node.new nodeId now m.settings).startup requestId
    .ok { m with
      bus := bus.publishAll (unitsOf nodeId messages)
      members := m.members.insert nodeId ⟨node, source, subscription⟩ }

/-- Stops a node. The others are not told. -/
def stop (m : Mesh γ) (nodeId : String) : Except TableError (Mesh γ) :=
  match m.members[nodeId]? with
  | none => .error (.nodeNotFound nodeId)
  | some member => .ok { m with
      bus := m.bus.unsubscribe member.subscription
      members := m.members.erase nodeId }

/-- Stops all nodes. -/
def shutdown (m : Mesh γ) : Mesh γ :=
  m.ids.foldl (fun m nodeId => (m.stop nodeId).toOption.getD m) m

/-- The heartbeat of a node at the time `now` of its clock. -/
def tick [WordSource γ] (m : Mesh γ) (nodeId : String) (now : Float) : Mesh γ :=
  match m.members[nodeId]? with
  | none => m
  | some member =>
    let ((node, messages), source) := member.node.tick now member.source
    { m with
      bus := m.bus.publishAll (unitsOf nodeId messages)
      members := m.members.insert nodeId { member with node, source } }

/-- Delivers one unit to a node, if there is one. -/
def deliver (m : Mesh γ) (nodeId : String) : Mesh γ :=
  match m.members[nodeId]? with
  | none => m
  | some member =>
    match m.bus.receive member.subscription with
    | (.unit data, bus) =>
      let (node, messages) := member.node.onUnit data
      { m with
        bus := bus.publishAll (unitsOf nodeId messages)
        members := m.members.insert nodeId { member with node } }
    | (_, bus) => { m with bus }

/-- Somebody else publishes a unit. -/
def publish (m : Mesh γ) (data : Bytes) : Mesh γ := { m with bus := m.bus.publish data }

/-- What can happen in a mesh. -/
inductive Event (γ : Type) where
  | start (nodeId : String) (now : Float) (requestId : String) (source : γ)
  | stop (nodeId : String)
  | tick (nodeId : String) (now : Float)
  | deliver (nodeId : String)
  | publish (data : Bytes)

/-- Lets something happen. A start or stop that is refused changes nothing. -/
def step [WordSource γ] (m : Mesh γ) : Event γ → Mesh γ
  | .start nodeId now requestId source => (m.start nodeId now requestId source).toOption.getD m
  | .stop nodeId => (m.stop nodeId).toOption.getD m
  | .tick nodeId now => m.tick nodeId now
  | .deliver nodeId => m.deliver nodeId
  | .publish data => m.publish data

/-- Lets things happen one after the other. -/
def run [WordSource γ] (m : Mesh γ) (events : List (Event γ)) : Mesh γ := events.foldl step m

/-! ## Deliveries -/

/-- The number of units that a node has not read. -/
def unread (m : Mesh γ) (nodeId : String) : Nat :=
  match m.members[nodeId]? with
  | none => 0
  | some member => m.bus.unread member.subscription

/-- Delivers to a node until it has read everything. A node answers a unit by one unit at most, and
the answers call for none of its own, so twice the number of unread units is enough. -/
def drain (m : Mesh γ) (nodeId : String) : Mesh γ :=
  go (2 * m.unread nodeId) m
where
  go : Nat → Mesh γ → Mesh γ
    | 0, m => m
    | fuel + 1, m => if m.unread nodeId = 0 then m else go fuel (m.deliver nodeId)

/-- Delivers to all nodes, one after the other, until nothing is unread. A unit is answered by
others, these answers once more, and so on at most four deep: an election, the winner's heartbeat,
candidacies, nothing. -/
def settle (m : Mesh γ) : Mesh γ := go 5 m
where
  go : Nat → Mesh γ → Mesh γ
    | 0, m => m
    | fuel + 1, m =>
      match m.ids.filter fun nodeId => m.unread nodeId ≠ 0 with
      | [] => m
      | ids => go fuel (ids.foldl drain m)

end Mesh

end HeartbeatMesh
