import HeartbeatMesh.Proofs.Node.Life

/-!
# Units that a node refuses

A node refuses a unit that is no envelope, that is its own, that cannot be decoded, or whose message
it does not take (`Refuses`). A refused unit has no effect at all. This is not a matter of course:
handling a message is a sequence of changes to the state, and a message that is refused half way
would leave some of them behind. So the sequence is spelled out here (`perform`, `serve`), and it is
shown that a refusal comes before the first change (`run_perform`, `run_serve`).

Refused units can therefore be put into a life anywhere (`Strewn`), and neither what becomes of the
node nor what it publishes is another (`refused_units_harmless`).
-/

namespace HeartbeatMesh.Node

variable {n n' : Node} {sender : String} {m : Message} {raw : Bytes} {out : List Message}

/-! ## Change by change -/

/-- Applies a message of the sender by changing the state on the way. What has been changed before
the message is refused stays changed. -/
def perform (sender : String) : Message → ExceptT Refusal (StateM Node) (List Message)
  | .heartbeat record => do
    if record.nodeId = (← get).id then
      throw (.ownHeartbeat sender)
    modify fun n ↦ { n with view := n.view.insert record.nodeId record }
    if (← get).masterKnown then
      return []
    let candidacy ← modifyGet fun n ↦ (n.nominate.2, n.nominate.1)
    return [.candidacy candidacy]
  | .stateRequest requestId => do
    return [.stateResponse requestId (← get).view]
  | .stateResponse requestId nodes => do
    if (← get).correlator.isOutstanding requestId then
      modify fun n ↦ { n with correlator := n.correlator.done requestId }
      if (← get).settings.mergeState then
        modify (·.mergeView nodes)
    return []
  | .candidacy c => do
    if !c.timestamp.isFinite then
      throw (.timestampNotFinite c.nodeId)
    modify fun n ↦ { n with candidates := n.candidates.insert c.nodeId c }
    return []
  | .vote candidate => do
    modify fun n ↦ { n with votes := n.votes.insert sender candidate }
    return []
  | .elected winner => do
    modify (·.conclude winner)
    if winner = (← get).id then
      return [.heartbeat (← get).self]
    return []

/-- Takes a unit from the bus by changing the state on the way. -/
def serve (raw : Bytes) : StateM Node (List Message) := do
  match Envelope.parse raw with
  | .error _ => return []
  | .ok envelope =>
    if envelope.sender = (← get).id then
      return []
    match envelope.decode with
    | .error _ => return []
    | .ok message =>
      match ← (perform envelope.sender message).run with
      | .error _ => return []
      | .ok out => return out

/-- **A refusal comes before the first change**, and a message that is taken changes the node as
`handle` does. -/
theorem run_perform (n : Node) (sender : String) (m : Message) :
    (perform sender m).run.run n
      = match n.handle sender m with
        | .error refusal => (.error refusal, n)
        | .ok (n', out) => (.ok out, n') := by
  cases m with
  | heartbeat r =>
    change (ite (r.nodeId = n.id) _ _ : StateM Node _) n = _
    by_cases hid : r.nodeId = n.id
    · rw [handle, if_pos hid, if_pos hid]
      rfl
    · rw [handle_heartbeat hid, if_neg hid]
      change (ite ((n.learn r).masterKnown = true) _ _ : StateM Node _) (n.learn r) = _
      split_ifs <;> rfl
  | stateRequest requestId => rfl
  | stateResponse requestId nodes =>
    rw [handle, Correlator.respond_eq]
    change (ite (n.correlator.isOutstanding requestId = true) _ _ : StateM Node _) n = _
    by_cases hwaits : n.correlator.isOutstanding requestId = true
    · rw [if_pos hwaits, if_pos hwaits]
      change (ite (n.settings.mergeState = true) _ _ : StateM Node _) _ = _
      dsimp only
      split_ifs <;> rfl
    · rw [if_neg hwaits, if_neg hwaits]
      rfl
  | candidacy c =>
    rw [handle]
    change (ite ((!c.timestamp.isFinite) = true) _ _ : StateM Node _) n = _
    cases c.timestamp.isFinite <;> rfl
  | vote candidate => rfl
  | elected winner =>
    change (ite (winner = (n.conclude winner).id) _ _ : StateM Node _) (n.conclude winner) = _
    rw [conclude_id, handle]
    split_ifs <;> rfl

/-- **A unit is taken as a whole or not at all.** -/
theorem run_serve (n : Node) (raw : Bytes) :
    (serve raw).run n = ((n.onUnit raw).2, (n.onUnit raw).1) := by
  rw [serve, onUnit, receive]
  cases Envelope.parse raw with
  | error defect => rfl
  | ok e =>
    dsimp only
    change (ite (e.sender = n.id) _ _ : StateM Node _) n = _
    by_cases hown : e.sender = n.id
    · rw [if_pos hown, if_pos hown]
      rfl
    · rw [if_neg hown, if_neg hown]
      cases e.decode with
      | error error => rfl
      | ok m =>
        dsimp only
        change StateT.run (bind (perform e.sender m).run _) n = _
        rw [StateT.run_bind, run_perform]
        cases n.handle e.sender m <;> rfl

/-! ## Refusals -/

/-- The node refuses the unit. -/
inductive Refuses (n : Node) (raw : Bytes) : Prop
  /-- The unit is no envelope. -/
  | malformed {defect : Envelope.Defect} (hparse : Envelope.parse raw = .error defect)
  /-- The unit is the node's own. -/
  | own {e : Envelope} (hparse : Envelope.parse raw = .ok e) (hsender : e.sender = n.id)
  /-- The unit has an unknown tag or a bad payload. -/
  | undecodable {e : Envelope} {error : CodecError} (hparse : Envelope.parse raw = .ok e)
      (hdecode : e.decode = .error error)
  /-- The node does not take the message. -/
  | untaken {e : Envelope} {m : Message} {refusal : Refusal} (hparse : Envelope.parse raw = .ok e)
      (hdecode : e.decode = .ok m) (hhandle : n.handle e.sender m = .error refusal)

theorem Refuses.exists_rejection (h : n.Refuses raw) :
    ∃ rejection, n.receive raw = .error rejection := by
  rw [receive]
  cases h with
  | malformed hparse =>
    rw [hparse]
    exact ⟨_, rfl⟩
  | own hparse hsender =>
    rw [hparse]
    dsimp only
    rw [if_pos hsender]
    exact ⟨_, rfl⟩
  | undecodable hparse hdecode =>
    rw [hparse]
    dsimp only
    rw [hdecode]
    split_ifs <;> exact ⟨_, rfl⟩
  | untaken hparse hdecode hhandle =>
    rw [hparse]
    dsimp only
    rw [hdecode]
    dsimp only
    rw [hhandle]
    split_ifs <;> exact ⟨_, rfl⟩

/-- What is not refused is handled under the sender of the envelope. -/
theorem receive_of_not_refuses (h : ¬n.Refuses raw) :
    ∃ e m n' out, Envelope.parse raw = .ok e ∧ e.sender ≠ n.id ∧ e.decode = .ok m ∧
      n.handle e.sender m = .ok (n', out) ∧ n.receive raw = .ok (n', out) := by
  cases hparse : Envelope.parse raw with
  | error defect => exact absurd (.malformed hparse) h
  | ok e =>
    have hsender : e.sender ≠ n.id := fun hown ↦ h (.own hparse hown)
    cases hdecode : e.decode with
    | error error => exact absurd (.undecodable hparse hdecode) h
    | ok m =>
      cases hhandle : n.handle e.sender m with
      | error refusal => exact absurd (.untaken hparse hdecode hhandle) h
      | ok result =>
        refine ⟨e, m, result.1, result.2, rfl, hsender, hdecode, hhandle, ?_⟩
        rw [receive, hparse]
        dsimp only
        rw [if_neg hsender, hdecode]
        dsimp only
        rw [hhandle]

theorem refuses_iff : n.Refuses raw ↔ (n.receive raw).toOption = none := by
  constructor
  · intro h
    obtain ⟨rejection, hreceive⟩ := h.exists_rejection
    rw [hreceive]
    rfl
  · intro hnone
    by_contra h
    obtain ⟨_, _, _, _, -, -, -, -, hreceive⟩ := receive_of_not_refuses h
    rw [hreceive] at hnone
    cases hnone

instance (n : Node) (raw : Bytes) : Decidable (n.Refuses raw) := decidable_of_iff _ refuses_iff.symm

theorem Refuses.onUnit_eq (h : n.Refuses raw) : n.onUnit raw = (n, []) := by
  obtain ⟨rejection, hreceive⟩ := h.exists_rejection
  rw [onUnit, hreceive]

/-- A message is answered by one message at most. -/
theorem Handling.length_le (h : Handling n sender m n' out) : out.length ≤ 1 := by
  cases h with
  | nominated | asked => exact Nat.le_refl 1
  | concluded => split_ifs <;> exact Nat.le_of_ble_eq_true rfl
  | _ => exact Nat.zero_le 1

theorem length_le_of_handle (h : n.handle sender m = .ok (n', out)) : out.length ≤ 1 := by
  have hle := (n.handling_accept sender m).length_le
  rwa [accept, h] at hle

/-- A message is not taken if it is a heartbeat with the id of the node, or a candidacy that has no
proper time, and the error says which. -/
theorem handle_eq_error_iff {refusal : Refusal} :
    n.handle sender m = .error refusal ↔
      (∃ r : NodeRecord, m = .heartbeat r ∧ r.nodeId = n.id ∧ refusal = .ownHeartbeat sender) ∨
        ∃ c : Candidacy, m = .candidacy c ∧ c.timestamp.isFinite = false ∧
          refusal = .timestampNotFinite c.nodeId := by
  constructor
  · intro h
    cases m with
    | heartbeat r =>
      by_cases hid : r.nodeId = n.id
      · rw [handle, if_pos hid] at h
        exact .inl ⟨r, rfl, hid, (Except.error.inj h).symm⟩
      · rw [handle_heartbeat hid] at h
        cases h
    | candidacy c =>
      rw [handle] at h
      split_ifs at h with hfinite
      exact .inr ⟨c, rfl, Bool.eq_false_iff.mpr hfinite, (Except.error.inj h).symm⟩
    | _ => cases h
  · rintro (⟨r, rfl, hid, rfl⟩ | ⟨c, rfl, hfinite, rfl⟩)
    · rw [handle, if_pos hid]
    · rw [handle, hfinite]
      rfl

/-- Whether a unit is refused is a matter of the id of the node alone. -/
theorem Refuses.of_id_eq (h : n.Refuses raw) (hid : n'.id = n.id) : n'.Refuses raw := by
  cases h with
  | malformed hparse => exact .malformed hparse
  | own hparse hsender => exact .own hparse (hsender.trans hid.symm)
  | undecodable hparse hdecode => exact .undecodable hparse hdecode
  | untaken hparse hdecode hhandle =>
    rw [handle_eq_error_iff, ← hid, ← handle_eq_error_iff] at hhandle
    exact .untaken hparse hdecode hhandle

/-! ## Lives with refused units -/

section Lives

variable {γ : Type} [WordSource γ] {o : Occasion γ} {os os' : List (Occasion γ)}

theorem Handling.id (h : Handling n sender m n' out) : n'.id = n.id := by
  cases h with
  | nominated =>
    rw [Node.id, nominate_self]
    rfl
  | concluded => exact conclude_id n _
  | _ => rfl

theorem Meeting.id (h : Meeting n o n' out) : n'.id = n.id := by
  cases h with
  | started => rfl
  | passed => rfl
  | handled _ h => exact h.id
  | ticked h => exact h.id

theorem id_live (n : Node) (os : List (Occasion γ)) : (n.live os).id = n.id := by
  induction os generalizing n with
  | nil => rfl
  | cons o os ih => exact (ih _).trans (n.meeting_meet o).id

/-- The second list is the first one with units put in, anywhere, that the node refuses. -/
inductive Strewn (n : Node) : List (Occasion γ) → List (Occasion γ) → Prop
  | nil : Strewn n [] []
  | kept (o : Occasion γ) {os os' : List (Occasion γ)} (h : Strewn n os os') :
      Strewn n (o :: os) (o :: os')
  | refused {raw : Bytes} (hraw : n.Refuses raw) {os os' : List (Occasion γ)}
      (h : Strewn n os os') : Strewn n os (.unit raw :: os')

omit [WordSource γ] in
theorem Strewn.append {units : List Bytes} (hunits : ∀ raw ∈ units, n.Refuses raw)
    (h : n.Strewn os os') : n.Strewn os (units.map .unit ++ os') := by
  induction units with
  | nil => exact h
  | cons raw units ih =>
    obtain ⟨hraw, hunits⟩ := List.forall_mem_cons.mp hunits
    exact .refused hraw (ih hunits)

/-- Refused units are without effect at whatever point of a life they come. -/
theorem Strewn.live_eq (h : n.Strewn os os') (hid : n'.id = n.id) :
    n'.live os' = n'.live os ∧ n'.said os' = n'.said os := by
  induction h generalizing n' with
  | nil => exact ⟨rfl, rfl⟩
  | kept o _ ih =>
    obtain ⟨hlive, hsaid⟩ := ih ((n'.meeting_meet o).id.trans hid)
    exact ⟨hlive, congrArg (_ ++ ·) hsaid⟩
  | @refused raw hraw os os' _ ih =>
    have hunit : n'.meet (.unit raw : Occasion γ) = (n', []) := (hraw.of_id_eq hid).onUnit_eq
    rw [live_cons, said, hunit, List.nil_append]
    exact ih hid

/-- **One bad unit never harms a node**, in whatever state the node is.

* Taking a unit change by change comes to what the node is said to do with it.
* A refused unit leaves the whole state as it is and is answered by nothing. It is refused at any
  time of the node's life, since that only hangs on the id of the node.
* Any other unit has the effect of its message under the sender of its envelope, and the node
  answers with one message at most.
* Refused units that are put into a life, anywhere and as many as may be, change neither what
  becomes of the node nor what it publishes. -/
theorem refused_units_harmless (n : Node) :
    (∀ raw, (serve raw).run n = ((n.onUnit raw).2, (n.onUnit raw).1)) ∧
      (∀ raw, n.Refuses raw → n.onUnit raw = (n, []) ∧
        ∀ os : List (Occasion γ), (n.live os).Refuses raw) ∧
      (∀ raw, ¬n.Refuses raw →
        ∃ e m n' out, Envelope.parse raw = .ok e ∧ e.sender ≠ n.id ∧ e.decode = .ok m ∧
          n.handle e.sender m = .ok (n', out) ∧ n.onUnit raw = (n', out) ∧ out.length ≤ 1) ∧
      ∀ os os' : List (Occasion γ), n.Strewn os os' →
        n.live os' = n.live os ∧ n.said os' = n.said os := by
  refine ⟨?_, ?_, ?_, ?_⟩
  · intro raw
    exact n.run_serve raw
  · intro raw hraw
    exact ⟨hraw.onUnit_eq, fun os ↦ hraw.of_id_eq (n.id_live os)⟩
  · intro raw hraw
    obtain ⟨e, m, n', out, hparse, hsender, hdecode, hhandle, hreceive⟩ :=
      receive_of_not_refuses hraw
    refine ⟨e, m, n', out, hparse, hsender, hdecode, hhandle, ?_, length_le_of_handle hhandle⟩
    rw [onUnit, hreceive]
  · intro os os' h
    exact h.live_eq rfl

/-- A peer is heard of, and then the votes are due. -/
def election : List (Occasion WordCycle) :=
  [.unit (Letter.unit ⟨"b", .heartbeat ⟨"b", 101, false⟩⟩), .tick 106 ⟨#[], 0⟩]

/-- Units that are no envelope, the node's own, of an unknown kind, without the payload of their
kind, and in the name of the node. -/
def junk : List Bytes :=
  [[], Letter.unit ⟨"a", .vote "b"⟩, Text.utf8 "b Vote {}", Text.utf8 "b MasterVote {}",
    Letter.unit ⟨"b", .heartbeat ⟨"a", 101, true⟩⟩]

/-- The junk comes between the peer and the votes, and the node votes as if there were none. -/
theorem refused_units_harmless_junk :
    let n := new "a" 100 ⟨5, false⟩
    let strewn := election.take 1 ++ (junk.map .unit ++ election.drop 1)
    (∀ raw ∈ junk, n.Refuses raw) ∧ n.Strewn election strewn ∧
      (n.live strewn).votes["a"]? = some "a" ∧ n.said strewn = n.said election := by
  intro n strewn
  have hjunk : ∀ raw ∈ junk, n.Refuses raw := by decide +kernel
  have hstrewn : n.Strewn election strewn := .kept _ (.append hjunk (.kept _ .nil))
  obtain ⟨-, -, -, hlives⟩ := @refused_units_harmless WordCycle _ n
  obtain ⟨hlive, hsaid⟩ := hlives election strewn hstrewn
  refine ⟨hjunk, hstrewn, ?_, hsaid⟩
  rw [hlive]
  decide +kernel

end Lives

end HeartbeatMesh.Node
