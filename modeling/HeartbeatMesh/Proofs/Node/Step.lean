import HeartbeatMesh.Node.Step
import HeartbeatMesh.Proofs.Correlator
import HeartbeatMesh.Proofs.Message.Relay
import HeartbeatMesh.Proofs.Tally
import Mathlib.Tactic.Basic

/-!
# What a step of a node can do

Each function of a step has one specification here, which says everything the function can do:
`Handling` for a message that a node takes in, `Hearing` for a letter that reaches it through the
bus, `Casting` and `Counting` for the two halves of a round that is moved on, and `Ticking` for a
heartbeat as a whole. Proofs about runs go by cases on these and do not open the functions again.

A node that a letter reaches through the bus is one that hears it (`onUnit_unit`).
-/

namespace HeartbeatMesh.Node

/-! ## Messages -/

/-- A node takes in a message of the sender. A refused one leaves the node as it is. -/
def accept (n : Node) (sender : String) (m : Message) : Node × List Message :=
  match n.handle sender m with
  | .ok result => result
  | .error _ => (n, [])

/-- A record is taken into the view. -/
def learn (n : Node) (r : NodeRecord) : Node := { n with view := n.view.insert r.nodeId r }

theorem handle_heartbeat {n : Node} {r : NodeRecord} (hid : r.nodeId ≠ n.id) (sender : String) :
    n.handle sender (.heartbeat r)
      = .ok (if (n.learn r).masterKnown then (n.learn r, [])
        else ((n.learn r).nominate.1, [.candidacy (n.learn r).nominate.2])) := by
  rw [handle, if_neg hid]
  change (if (n.learn r).masterKnown then _ else _) = _
  split_ifs <;> rfl

/-- What a message can do to a node, and what the node publishes in answer. -/
inductive Handling (n : Node) (sender : String) : Message → Node → List Message → Prop
  | echoed {r : NodeRecord} (hid : r.nodeId = n.id) : Handling n sender (.heartbeat r) n []
  | followed {r : NodeRecord} (hid : r.nodeId ≠ n.id)
      (hmaster : (n.learn r).masterKnown = true) :
      Handling n sender (.heartbeat r) (n.learn r) []
  | nominated {r : NodeRecord} (hid : r.nodeId ≠ n.id)
      (hmaster : (n.learn r).masterKnown = false) :
      Handling n sender (.heartbeat r) (n.learn r).nominate.1
        [.candidacy (n.learn r).nominate.2]
  | asked {requestId : String} :
      Handling n sender (.stateRequest requestId) n [.stateResponse requestId n.view]
  | merged {requestId : String} {nodes : IdMap NodeRecord}
      (hwaits : n.correlator.isOutstanding requestId = true)
      (hmerge : n.settings.mergeState = true) :
      Handling n sender (.stateResponse requestId nodes)
        { n.mergeView nodes with correlator := n.correlator.done requestId } []
  | answered {requestId : String} {nodes : IdMap NodeRecord}
      (hwaits : n.correlator.isOutstanding requestId = true)
      (hmerge : n.settings.mergeState = false) :
      Handling n sender (.stateResponse requestId nodes)
        { n with correlator := n.correlator.done requestId } []
  | unsolicited {requestId : String} {nodes : IdMap NodeRecord}
      (hwaits : n.correlator.isOutstanding requestId = false) :
      Handling n sender (.stateResponse requestId nodes) n []
  | stood {c : Candidacy} (hfinite : c.timestamp.isFinite = true) :
      Handling n sender (.candidacy c) { n with candidates := n.candidates.insert c.nodeId c } []
  | undated {c : Candidacy} (hfinite : c.timestamp.isFinite = false) :
      Handling n sender (.candidacy c) n []
  | voted {candidate : String} :
      Handling n sender (.vote candidate) { n with votes := n.votes.insert sender candidate } []
  | concluded {winner : String} :
      Handling n sender (.elected winner) (n.conclude winner)
        (if winner = n.id then [.heartbeat (n.conclude winner).self] else [])

theorem handling_accept (n : Node) (sender : String) (m : Message) :
    Handling n sender m (n.accept sender m).1 (n.accept sender m).2 := by
  rw [accept]
  cases m with
  | heartbeat r =>
    by_cases hid : r.nodeId = n.id
    · rw [handle, if_pos hid]
      exact .echoed hid
    · rw [handle_heartbeat hid]
      dsimp only
      split_ifs with hmaster
      · exact .followed hid hmaster
      · exact .nominated hid (Bool.eq_false_iff.mpr hmaster)
  | stateRequest requestId => exact .asked
  | stateResponse requestId nodes =>
    rw [handle, Correlator.respond_eq]
    dsimp only
    split_ifs with hwaits hmerge
    · exact .merged hwaits hmerge
    · exact .answered hwaits (Bool.eq_false_iff.mpr hmerge)
    · exact .unsolicited (Bool.eq_false_iff.mpr hwaits)
  | candidacy c =>
    rw [handle]
    split_ifs with hfinite
    · exact .stood hfinite
    · exact .undated (Bool.eq_false_iff.mpr hfinite)
  | vote candidate => exact .voted
  | elected winner => exact .concluded

/-! ## Letters -/

/-- A node hears a letter: its own is passed over, and so is one that does not arrive or that is
refused. -/
def hear (n : Node) (l : Letter) : Node × List Message :=
  if l.sender = n.id then (n, [])
  else
    match l.message.relay with
    | none => (n, [])
    | some m =>
      match n.handle l.sender m with
      | .ok result => result
      | .error _ => (n, [])

/-- **Units are heard as letters.** -/
theorem onUnit_unit {l : Letter} (h : IsNodeId l.sender) (n : Node) :
    n.onUnit l.unit = n.hear l := by
  rw [onUnit, receive, Letter.parse_unit h, hear, ← Message.toOption_decode_encode _ l.sender]
  have hsender : (l.message.encode l.sender).sender = l.sender := rfl
  simp only [hsender]
  split_ifs with hown
  · rfl
  · cases (l.message.encode l.sender).decode with
    | error e => rfl
    | ok m =>
      simp only [Except.toOption]
      cases n.handle l.sender m <;> rfl

/-- What a letter can do to a node, and what the node publishes in answer. -/
inductive Hearing (n : Node) (l : Letter) : Node → List Message → Prop
  | ignored : Hearing n l n []
  | followed {r : NodeRecord} (hl : l.message.relay = some (.heartbeat r)) (hid : r.nodeId ≠ n.id)
      (hmaster : (n.learn r).masterKnown = true) : Hearing n l (n.learn r) []
  | nominated {r : NodeRecord} (hl : l.message.relay = some (.heartbeat r))
      (hid : r.nodeId ≠ n.id) (hmaster : (n.learn r).masterKnown = false) :
      Hearing n l (n.learn r).nominate.1 [.candidacy (n.learn r).nominate.2]
  | asked {requestId : String} (hl : l.message.relay = some (.stateRequest requestId)) :
      Hearing n l n [.stateResponse requestId n.view]
  | merged {requestId : String} {nodes : IdMap NodeRecord} (correlator : Correlator)
      (hl : l.message.relay = some (.stateResponse requestId nodes)) :
      Hearing n l { n.mergeView nodes with correlator } []
  | answered (correlator : Correlator) : Hearing n l { n with correlator } []
  | stood {c : Candidacy} (hl : l.message.relay = some (.candidacy c)) :
      Hearing n l { n with candidates := n.candidates.insert c.nodeId c } []
  | voted {candidate : String} (hl : l.message.relay = some (.vote candidate))
      (hsender : l.sender ≠ n.id) :
      Hearing n l { n with votes := n.votes.insert l.sender candidate } []
  | concluded {winner : String} (hl : l.message.relay = some (.elected winner))
      (hsender : l.sender ≠ n.id) :
      Hearing n l (n.conclude winner)
        (if winner = n.id then [.heartbeat (n.conclude winner).self] else [])

/-- A letter that arrives is taken in as the message that the wire makes of it. -/
theorem hear_eq_accept {n : Node} {l : Letter} {m : Message} (hsender : l.sender ≠ n.id)
    (hl : l.message.relay = some m) : n.hear l = n.accept l.sender m := by
  rw [hear, if_neg hsender, hl]
  rfl

theorem hearing_hear (n : Node) (l : Letter) : Hearing n l (n.hear l).1 (n.hear l).2 := by
  by_cases hown : l.sender = n.id
  · rw [hear, if_pos hown]
    exact .ignored
  cases hl : l.message.relay with
  | none =>
    rw [hear, if_neg hown, hl]
    exact .ignored
  | some m =>
    rw [hear_eq_accept hown hl]
    have h := n.handling_accept l.sender m
    generalize (n.accept l.sender m).1 = n', (n.accept l.sender m).2 = out at h ⊢
    cases h with
    | echoed => exact .ignored
    | followed hid hmaster => exact .followed hl hid hmaster
    | nominated hid hmaster => exact .nominated hl hid hmaster
    | asked => exact .asked hl
    | merged => exact .merged _ hl
    | answered => exact .answered _
    | unsolicited => exact .ignored
    | stood => exact .stood hl
    | undated => exact .ignored
    | voted => exact .voted hl hown
    | concluded => exact .concluded hl hown

/-! ## The heartbeat -/

/-- What becomes of a node that may vote. -/
inductive Casting (n : Node) : Node → List Message → Prop
  | held : Casting n n []
  | cast {candidate : String} (hfirst : n.votes.contains n.id = false)
      (hmem : candidate ∈ n.candidates.keys) :
      Casting n { n with votes := n.votes.insert n.id candidate } [.vote candidate]

theorem casting_castVote {γ : Type} [WordSource γ] (n : Node) (source : γ) :
    Casting n (n.castVote source).1.1 (n.castVote source).1.2 := by
  rw [castVote]
  split_ifs with hvoted
  · exact .held
  · cases hchoice : choose n.candidates.keys source with
    | mk choice source' =>
      cases choice with
      | none => exact .held
      | some c => exact .cast (Bool.eq_false_iff.mpr hvoted) (mem_of_choose (by rw [hchoice]))

/-- What becomes of a node that may count the votes. -/
inductive Counting (n : Node) : Node → List Message → Prop
  | waiting (hopen : n.votesComplete = false) : Counting n n []
  | won {winner : String} (hcomplete : n.votesComplete = true)
      (hwinner : IsPlurality n.votes.values winner) :
      Counting n (n.conclude winner) [.elected winner, .heartbeat (n.conclude winner).self]
  | tied (hcomplete : n.votesComplete = true) (htie : ∀ c, ¬IsPlurality n.votes.values c) :
      Counting n n.clearRound []

theorem counting_countRound (n : Node) : Counting n n.countRound.1 n.countRound.2 := by
  rw [countRound]
  split_ifs with hcomplete
  · cases htally : tally n.votes.values with
    | none =>
      refine .tied hcomplete fun c hc ↦ ?_
      rw [tally_eq_winner_iff.mpr hc] at htally
      cases htally
    | some outcome =>
      cases outcome with
      | winner w => exact .won hcomplete (tally_eq_winner_iff.mp htally)
      | tie leaders most =>
        refine .tied hcomplete fun c hc ↦ ?_
        rw [tally_eq_winner_iff.mpr hc] at htally
        cases htally
  · exact .waiting (Bool.eq_false_iff.mpr hcomplete)

/-- What a heartbeat can do to a node, and what the node publishes. -/
inductive Ticking {γ : Type} [WordSource γ] (n : Node) (now : Float) (source : γ) :
    Node → List Message → Prop
  | beat (hidle : (n.refresh now).masterKnown = true ∨ (n.refresh now).votesDue now = false) :
      Ticking n now source (n.refresh now) [.heartbeat (n.refresh now).self]
  | round {n₁ n' : Node} {ballot result : List Message}
      (hmaster : (n.refresh now).masterKnown = false)
      (hvoter : ((n.refresh now).castVote source).1.1 = n₁)
      (hcast : Casting (n.refresh now) n₁ ballot) (hcount : Counting n₁ n' result)
      (hdue : (n.refresh now).votesDue now = true) :
      Ticking n now source n' (.heartbeat (n.refresh now).self :: (ballot ++ result))

theorem ticking_tick {γ : Type} [WordSource γ] (n : Node) (now : Float) (source : γ) :
    Ticking n now source (n.tick now source).1.1 (n.tick now source).1.2 := by
  rw [tick]
  dsimp only
  split_ifs with hidle
  · rw [Bool.or_eq_true, Bool.not_eq_true'] at hidle
    exact .beat hidle
  · rw [Bool.or_eq_true, not_or, Bool.not_eq_true', Bool.not_eq_false] at hidle
    exact .round (Bool.eq_false_iff.mpr hidle.1) rfl (casting_castVote _ source)
      (counting_countRound _) hidle.2

end HeartbeatMesh.Node
