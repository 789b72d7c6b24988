import HeartbeatMesh.Message.Codec
import HeartbeatMesh.Node
import HeartbeatMesh.Random
import HeartbeatMesh.Tally

/-!
# Steps of a node

A node does something on three occasions: when it starts, when a message reaches it and when its
heartbeat is due. Each step is a function from a state to a state and the messages to publish.

## The election

* A heartbeat that reaches a node whose view flags no master makes the node a candidate. It repeats
  the candidacy of its first nomination for as long as the round is open.
* When the earliest candidacy is older than the heartbeat interval, the node votes for one of the
  candidates, at random and once in a round.
* When as many votes as candidates as known nodes have come together, the votes are counted. A
  winner is announced; a tie drops the round.
* The winner makes itself master. Others learn it from its next heartbeat only.
-/

namespace HeartbeatMesh

/-- The earlier of two candidacies; of equally early ones, the one with the smaller id. -/
def Candidacy.earlier (a b : Candidacy) : Candidacy :=
  if b.timestamp < a.timestamp then b
  else if a.timestamp < b.timestamp then a
  else if b.nodeId < a.nodeId then b
  else a

namespace Node

/-! ## Starting -/

/-- Announces the node, and asks the others for their view under the given request id. -/
def startup (n : Node) (requestId : String) : Node × List Message :=
  ({ n with correlator := n.correlator.register requestId },
    [.stateRequest requestId, .heartbeat n.self])

/-! ## The round -/

/-- Drops all candidacies and votes. -/
def clearRound (n : Node) : Node := { n with candidates := ∅, votes := ∅ }

/-- Makes the node master, in its own record and in its view. -/
def crown (n : Node) : Node :=
  let self := { n.self with isMaster := true }
  { n with self, view := n.view.insert self.nodeId self }

/-- Ends the round in favour of the winner. -/
def conclude (n : Node) (winner : String) : Node :=
  if winner = n.id then n.clearRound.crown else n.clearRound

/-- The node's candidacy of the open round: the one it has, or a new one dated by its last
heartbeat. -/
def nominate (n : Node) : Node × Candidacy :=
  match n.candidates[n.id]? with
  | some candidacy => (n, candidacy)
  | none =>
    let candidacy : Candidacy := ⟨n.id, n.self.heartbeat⟩
    ({ n with candidates := n.candidates.insert n.id candidacy }, candidacy)

/-! ## Messages -/

/-- Why a message is refused. -/
inductive Refusal where
  /-- Somebody else's heartbeat carries the id of the node. -/
  | ownHeartbeat (sender : String)
  /-- A candidacy whose time is no finite number. -/
  | timestampNotFinite (candidate : String)
  deriving Repr, DecidableEq

def Refusal.message : Refusal → String
  | .ownHeartbeat sender => s!"heartbeat from {sender} carries the local node id"
  | .timestampNotFinite candidate => s!"candidate {candidate} has a non finite timestamp"

/-- Takes the records of unknown nodes into the view. -/
def mergeView (n : Node) (nodes : IdMap NodeRecord) : Node :=
  let merged := nodes.toList.foldl (fun view (key, record) => view.insertIfNew key record) n.view
  { n with view := merged }

/-- Applies a message of the sender. -/
def handle (n : Node) (sender : String) : Message → Except Refusal (Node × List Message)
  | .heartbeat record =>
    if record.nodeId = n.id then .error (.ownHeartbeat sender)
    else
      let n := { n with view := n.view.insert record.nodeId record }
      if n.masterKnown then .ok (n, [])
      else
        let (n, candidacy) := n.nominate
        .ok (n, [.candidacy candidacy])
  | .stateRequest requestId => .ok (n, [.stateResponse requestId n.view])
  | .stateResponse requestId nodes =>
    let (merged, correlator) := n.correlator.respond requestId fun _ =>
      if n.settings.mergeState then n.mergeView nodes else n
    .ok ({ merged.getD n with correlator }, [])
  | .candidacy c =>
    if c.timestamp.isFinite then
      .ok ({ n with candidates := n.candidates.insert c.nodeId c }, [])
    else .error (.timestampNotFinite c.nodeId)
  | .vote candidate => .ok ({ n with votes := n.votes.insert sender candidate }, [])
  | .elected winner =>
    let n' := n.conclude winner
    .ok (n', if winner = n.id then [.heartbeat n'.self] else [])

/-! ## Units -/

/-- Why a unit from the bus has no effect on a node. -/
inductive Rejection where
  | codec (error : CodecError)
  /-- The node's own unit comes back to it. -/
  | own
  | refused (refusal : Refusal)
  deriving Repr, DecidableEq

/-- Reads a unit from the bus and applies its message. Whether a unit is the node's own is asked
before its payload is read. -/
def receive (n : Node) (raw : Bytes) : Except Rejection (Node × List Message) :=
  match Envelope.parse raw with
  | .error defect => .error (.codec (.malformed defect.message))
  | .ok envelope =>
    if envelope.sender = n.id then .error .own
    else
      match envelope.decode with
      | .error e => .error (.codec e)
      | .ok message =>
        match n.handle envelope.sender message with
        | .error refusal => .error (.refused refusal)
        | .ok result => .ok result

/-- Takes a unit from the bus. A rejected one leaves the node as it is. -/
def onUnit (n : Node) (raw : Bytes) : Node × List Message :=
  match n.receive raw with
  | .ok result => result
  | .error _ => (n, [])

/-! ## The heartbeat -/

/-- Renews the node's own record. -/
def refresh (n : Node) (now : Float) : Node :=
  let self := { n.self with heartbeat := now }
  { n with self, view := n.view.insert self.nodeId self }

/-- The earliest candidacy of the open round. -/
def earliest? (n : Node) : Option Candidacy :=
  match n.candidates.values with
  | [] => none
  | c :: cs => some (cs.foldl Candidacy.earlier c)

/-- Whether the round is old enough for votes. -/
def votesDue (n : Node) (now : Float) : Bool :=
  match n.earliest? with
  | none => false
  | some c => !decide (now - c.timestamp ≤ n.settings.interval)

/-- Votes for one of the candidates, unless the node has voted in this round. -/
def castVote {γ : Type} [WordSource γ] (n : Node) (source : γ) : (Node × List Message) × γ :=
  if n.votes.contains n.id then ((n, []), source)
  else
    match choose n.candidates.keys source with
    | (some c, source) => (({ n with votes := n.votes.insert n.id c }, [.vote c]), source)
    | (none, source) => ((n, []), source)

/-- Whether as many have voted as stand and as are known. -/
def votesComplete (n : Node) : Bool :=
  n.votes.size = n.candidates.size ∧ n.candidates.size = n.view.size

/-- Counts the votes once they are complete. -/
def countRound (n : Node) : Node × List Message :=
  if n.votesComplete then
    match tally n.votes.values with
    | some (.winner winner) =>
      let n := n.conclude winner
      (n, [.elected winner, .heartbeat n.self])
    | some (.tie _ _) | none => (n.clearRound, [])
  else (n, [])

/-- The heartbeat at the time `now`: renews and announces the node's own record, then moves an open
round on if no master is known. -/
def tick {γ : Type} [WordSource γ] (n : Node) (now : Float) (source : γ) :
    (Node × List Message) × γ :=
  let n := n.refresh now
  let beat := Message.heartbeat n.self
  if n.masterKnown || !n.votesDue now then ((n, [beat]), source)
  else
    let ((n, ballot), source) := n.castVote source
    let (n, result) := n.countRound
    ((n, beat :: ballot ++ result), source)

end Node

end HeartbeatMesh
