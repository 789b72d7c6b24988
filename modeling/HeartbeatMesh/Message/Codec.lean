import HeartbeatMesh.Envelope
import HeartbeatMesh.Message
import HeartbeatMesh.Wire.Shape

/-!
# Messages as units

Each kind of message has a tag, which names it on the envelope, and a payload shape.
`Message.encode` puts a message into an envelope, `Envelope.decode` takes it out again, and
`decodeUnit` does both steps of reading a unit.
-/

namespace HeartbeatMesh

/-! ## Tags and shapes -/

/-- The kinds of message. -/
inductive Tag where
  | heartbeat
  | stateRequest
  | stateResponse
  | candidacy
  | vote
  | elected
  deriving Repr, DecidableEq

/-- The tag as it stands on an envelope. -/
def Tag.name : Tag → String
  | .heartbeat => "Heartbeat"
  | .stateRequest => "ClusterStateRequest"
  | .stateResponse => "ClusterStateResponse"
  | .candidacy => "MasterCandidate"
  | .vote => "MasterVote"
  | .elected => "MasterElected"

/-- All kinds of message. -/
def Tag.all : List Tag := [.heartbeat, .stateRequest, .stateResponse, .candidacy, .vote, .elected]

/-- The tag of a name. -/
def Tag.ofName? (name : String) : Option Tag := Tag.all.find? (·.name = name)

open Wire (Shape Fields)

/-- The payload shape of a node record. -/
def recordShape : Shape :=
  .record "NodeState"
    (.cons "node_id" .text (.cons "heartbeat" .real (.cons "is_master" .flag .nil)))

/-- The payload shape of each kind of message. -/
def Tag.shape : Tag → Shape
  | .heartbeat => .record "Heartbeat" (.cons "node_state" recordShape .nil)
  | .stateRequest => .record "ClusterStateRequest" (.cons "request_id" .text .nil)
  | .stateResponse =>
    .record "ClusterStateResponse"
      (.cons "request_id" .text (.cons "nodes" (.dict recordShape) .nil))
  | .candidacy =>
    .record "MasterCandidate" (.cons "node_id" .text (.cons "timestamp" .real .nil))
  | .vote => .record "MasterVote" (.cons "node_id" .text .nil)
  | .elected => .record "MasterElected" (.cons "elected_node_id" .text .nil)

/-! ## Messages as values of their shape -/

/-- A record as a value of its shape. -/
def NodeRecord.toVal (r : NodeRecord) : recordShape.Val := (r.nodeId, r.heartbeat, r.isMaster, ())

/-- A record from a value of its shape. -/
def NodeRecord.ofVal : recordShape.Val → NodeRecord
  | (nodeId, heartbeat, isMaster, ()) => ⟨nodeId, heartbeat, isMaster⟩

/-- The kind of a message. -/
def Message.tag : Message → Tag
  | .heartbeat _ => .heartbeat
  | .stateRequest _ => .stateRequest
  | .stateResponse _ _ => .stateResponse
  | .candidacy _ => .candidacy
  | .vote _ => .vote
  | .elected _ => .elected

/-- A message as a value of its shape. -/
def Message.toVal : (m : Message) → m.tag.shape.Val
  | .heartbeat record => (record.toVal, ())
  | .stateRequest requestId => (requestId, ())
  | .stateResponse requestId nodes => (requestId, nodes.map fun _ r => r.toVal, ())
  | .candidacy candidate => (candidate.nodeId, candidate.timestamp, ())
  | .vote candidate => (candidate, ())
  | .elected winner => (winner, ())

/-- A message from a value of the shape of its kind. -/
def Message.ofVal : (tag : Tag) → tag.shape.Val → Message
  | .heartbeat, (record, ()) => .heartbeat (.ofVal record)
  | .stateRequest, (requestId, ()) => .stateRequest requestId
  | .stateResponse, (requestId, nodes, ()) =>
    .stateResponse requestId (Std.ExtTreeMap.map (fun _ r => NodeRecord.ofVal r) nodes)
  | .candidacy, (nodeId, timestamp, ()) => .candidacy ⟨nodeId, timestamp⟩
  | .vote, (candidate, ()) => .vote candidate
  | .elected, (winner, ()) => .elected winner

/-! ## Encoding and decoding -/

/-- The payload of a message. -/
def Message.payload (m : Message) : Bytes := m.tag.shape.write m.toVal

/-- Puts a message into an envelope of its sender. -/
def Message.encode (m : Message) (sender : String) : Envelope := ⟨sender, m.tag.name, m.payload⟩

/-- Why a unit carries no message. -/
inductive CodecError where
  | malformed (reason : String)
  | unknownTag (tag : String)
  | payload (tag : String) (error : Wire.ReadError)
  deriving Repr, DecidableEq

/-- The wording of the first problem of a payload. -/
def Wire.ReadError.message : Wire.ReadError → String
  | .truncated => "the text ends too early"
  | .malformed => "the text is not JSON"
  | .mismatch m => m.message

def CodecError.message : CodecError → String
  | .malformed reason => s!"malformed envelope: {reason}"
  | .unknownTag tag => s!"unknown message type: {tag}"
  | .payload tag error => s!"invalid {tag} payload: {error.message}"

/-- Takes the message out of an envelope. -/
def Envelope.decode (e : Envelope) : Except CodecError Message :=
  match Tag.ofName? e.tag with
  | none => .error (.unknownTag e.tag)
  | some tag =>
    match tag.shape.decode e.payload with
    | .ok v => .ok (.ofVal tag v)
    | .error error => .error (.payload e.tag error)

/-- Reads a unit: its sender and its message. -/
def decodeUnit (raw : Bytes) : Except CodecError (String × Message) :=
  match Envelope.parse raw with
  | .error defect => .error (.malformed defect.message)
  | .ok e => e.decode.map (e.sender, ·)

end HeartbeatMesh
