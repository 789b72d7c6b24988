import HeartbeatMesh.Proofs.Enumeration
import HeartbeatMesh.Proofs.Node.Earliest
import HeartbeatMesh.Proofs.Tally.Outcome

/-!
# A node that goes through its collections in any order

A node goes through its view to find a master, through a response to merge it, through the
candidacies for the earliest one and for a choice, and through the votes and their numbers to count
them. Here it does each of these in the order of an enumeration (`acceptIn`, `tickIn`), and none of
them makes a difference: a property of some record does not depend on the order, records are taken
in under different ids, choices are made among sorted ids, counts are counts. Only the earliest
candidacy asks for something: that candidacies are comparable.
-/

namespace HeartbeatMesh.Node

variable {n : Node} {e : Enumeration}

/-! ## Messages -/

/-- Whether the view flags a master, record by record. -/
def masterKnownIn (e : Enumeration) (n : Node) : Bool := (e.values n.view).any (·.isMaster)

/-- Takes the records of unknown nodes into the view, one after the other. -/
def mergeViewIn (e : Enumeration) (n : Node) (nodes : IdMap NodeRecord) : Node :=
  { n with view := (e.entries nodes).foldl (fun m e ↦ m.insertIfNew e.1 e.2) n.view }

/-- Applies a message of the sender. -/
def handleIn (e : Enumeration) (n : Node) (sender : String) :
    Message → Except Refusal (Node × List Message)
  | .heartbeat record =>
    if record.nodeId = n.id then .error (.ownHeartbeat sender)
    else if (n.learn record).masterKnownIn e then .ok (n.learn record, [])
    else .ok ((n.learn record).nominate.1, [.candidacy (n.learn record).nominate.2])
  | .stateResponse requestId nodes =>
    let (merged, correlator) := n.correlator.respond requestId fun _ ↦
      if n.settings.mergeState then n.mergeViewIn e nodes else n
    .ok ({ merged.getD n with correlator }, [])
  | m => n.handle sender m

/-- A node takes in a message of the sender. -/
def acceptIn (e : Enumeration) (n : Node) (sender : String) (m : Message) : Node × List Message :=
  match n.handleIn e sender m with
  | .ok result => result
  | .error _ => (n, [])

@[simp] theorem masterKnownIn_eq (e : Enumeration) (n : Node) :
    n.masterKnownIn e = n.masterKnown := by
  rw [masterKnownIn, masterKnown, e.any_values]

@[simp] theorem mergeViewIn_eq (e : Enumeration) (n : Node) (nodes : IdMap NodeRecord) :
    n.mergeViewIn e nodes = n.mergeView nodes := by
  rw [mergeViewIn, e.foldl_insertIfNew]
  rfl

theorem handleIn_eq (e : Enumeration) (n : Node) (sender : String) (m : Message) :
    n.handleIn e sender m = n.handle sender m := by
  cases m with
  | heartbeat r =>
    by_cases hid : r.nodeId = n.id
    · simp [handleIn, handle, hid]
    · rw [handle_heartbeat hid, handleIn, if_neg hid, masterKnownIn_eq]
      split_ifs <;> rfl
  | stateResponse requestId nodes => simp [handleIn, handle]
  | _ => rfl

@[simp] theorem acceptIn_eq (e : Enumeration) (n : Node) (sender : String) (m : Message) :
    n.acceptIn e sender m = n.accept sender m := by
  rw [acceptIn, handleIn_eq]
  rfl

/-! ## The heartbeat -/

/-- Whether the round is old enough for votes, candidacy by candidacy. -/
def votesDueIn (e : Enumeration) (n : Node) (now : Float) : Bool :=
  match Candidacy.first? (e.values n.candidates) with
  | none => false
  | some c => !decide (now - c.timestamp ≤ n.settings.interval)

/-- Votes for one of the candidates, which are found one by one and then sorted. -/
def castVoteIn {γ : Type} [WordSource γ] (e : Enumeration) (n : Node) (source : γ) :
    (Node × List Message) × γ :=
  if n.votes.contains n.id then ((n, []), source)
  else
    match choose (sortIds (e.keys n.candidates)) source with
    | (some c, source) => (({ n with votes := n.votes.insert n.id c }, [.vote c]), source)
    | (none, source) => ((n, []), source)

/-- Counts the votes one by one, and goes through their numbers, once they are complete. -/
def countRoundIn (e : Enumeration) (n : Node) : Node × List Message :=
  if n.votesComplete then
    match Tally.ofCounts? (e.entries (countVotes (e.values n.votes))) with
    | some (.winner winner) =>
      (n.conclude winner, [.elected winner, .heartbeat (n.conclude winner).self])
    | some (.tie _ _) | none => (n.clearRound, [])
  else (n, [])

/-- The heartbeat at the time `now`. -/
def tickIn {γ : Type} [WordSource γ] (e : Enumeration) (n : Node) (now : Float) (source : γ) :
    (Node × List Message) × γ :=
  let n := n.refresh now
  let beat := Message.heartbeat n.self
  if n.masterKnownIn e || !n.votesDueIn e now then ((n, [beat]), source)
  else
    let ((n, ballot), source) := n.castVoteIn e source
    let (n, result) := n.countRoundIn e
    ((n, beat :: ballot ++ result), source)

theorem votesDueIn_eq (h : Candidacy.Comparable n.candidates.values) (e : Enumeration)
    (now : Float) : n.votesDueIn e now = n.votesDue now := by
  rw [votesDueIn, ← Candidacy.first?_eq_of_perm h (e.values_perm n.candidates).symm]
  rfl

@[simp] theorem castVoteIn_eq {γ : Type} [WordSource γ] (e : Enumeration) (n : Node) (source : γ) :
    n.castVoteIn e source = n.castVote source := by
  rw [castVoteIn, e.sortIds_keys]
  rfl

@[simp] theorem countRoundIn_eq (e : Enumeration) (n : Node) :
    n.countRoundIn e = n.countRound := by
  have htally : Tally.ofCounts? (e.entries (countVotes (e.values n.votes)))
      = tally n.votes.values := by
    rw [countVotes_eq_of_perm (e.values_perm n.votes), Tally.ofCounts?_eq_of_perm (e.perm _),
      Tally.ofCounts?_toList]
  rw [countRoundIn, htally]
  rfl

/-- **A heartbeat does not depend on the order in which a node goes through its collections.** -/
theorem tickIn_eq {γ : Type} [WordSource γ] (h : Candidacy.Comparable n.candidates.values)
    (e : Enumeration) (now : Float) (source : γ) : n.tickIn e now source = n.tick now source := by
  have hdue : (n.refresh now).votesDueIn e now = (n.refresh now).votesDue now :=
    votesDueIn_eq h e now
  simp only [tickIn, tick, hdue, masterKnownIn_eq, castVoteIn_eq, countRoundIn_eq]

end HeartbeatMesh.Node
