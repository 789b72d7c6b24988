import HeartbeatMesh.Message.Codec
import HeartbeatMesh.Proofs.Wire.Value

/-!
# Messages across the bus

What a message becomes on its way from one node to another: its times are relayed, and everything
else arrives as it was sent (`Message.relay`). A message that carries a time which is no number
does not arrive at all.

The sender stands in front of the message and ends at the first space, so ids without spaces are
what makes units readable: `decodeUnit_unit`.
-/

namespace HeartbeatMesh

open Wire (relayReal relayEntry relayDict Shape)

/-! ## Ids and letters -/

/-- Ids that can stand on an envelope. -/
def IsNodeId (nodeId : String) : Prop := nodeId ≠ "" ∧ ' ' ∉ nodeId.toList

instance (nodeId : String) : Decidable (IsNodeId nodeId) :=
  inferInstanceAs (Decidable (nodeId ≠ "" ∧ ' ' ∉ nodeId.toList))

/-- A message of a node, as it is published. -/
structure Letter where
  sender : String
  message : Message
  deriving DecidableEq

/-- The unit on the bus that carries a letter. -/
def Letter.unit (l : Letter) : Bytes := (l.message.encode l.sender).toBytes

/-! ## What arrives -/

/-- A record after a transfer. -/
def NodeRecord.relay (r : NodeRecord) : Option NodeRecord :=
  (relayReal r.heartbeat).map fun t ↦ { r with heartbeat := t }

/-- A message after a transfer. -/
def Message.relay : Message → Option Message
  | .heartbeat record => record.relay.map .heartbeat
  | .stateRequest requestId => some (.stateRequest requestId)
  | .stateResponse requestId nodes =>
    (relayDict NodeRecord.relay nodes).map (.stateResponse requestId)
  | .candidacy c => (relayReal c.timestamp).map fun t ↦ .candidacy ⟨c.nodeId, t⟩
  | .vote candidate => some (.vote candidate)
  | .elected winner => some (.elected winner)

theorem NodeRecord.of_relay {r r' : NodeRecord} (h : r.relay = some r') :
    r'.nodeId = r.nodeId ∧ r'.isMaster = r.isMaster := by
  obtain ⟨t, -, rfl⟩ := Option.map_eq_some_iff.mp h
  exact ⟨rfl, rfl⟩

/-! ## Envelopes -/

namespace Envelope

theorem cut?_append {field : Bytes} (h : space ∉ field) (rest : Bytes) :
    cut? (field ++ space :: rest) = some (field, rest) := by
  induction field with
  | nil => rfl
  | cons b field ih =>
    rw [List.mem_cons, not_or] at h
    rw [List.cons_append, cut?, if_neg (Ne.symm h.1), ih h.2]
    rfl

theorem space_notMem_utf8 {s : String} (h : ' ' ∉ s.toList) : space ∉ Text.utf8 s :=
  fun hmem ↦ h ((Text.mem_utf8_iff (by decide)).mp hmem)

/-- **Envelopes read back**, whatever their payload holds. -/
theorem parse_toBytes {e : Envelope} (hsender : IsNodeId e.sender) (htag : IsNodeId e.tag) :
    parse e.toBytes = .ok e := by
  have hrest := cut?_append (space_notMem_utf8 htag.2) e.payload
  rw [toBytes, parse, cut?_append (space_notMem_utf8 hsender.2), Option.bind_some]
  simp only [hrest, Option.map_some, Text.ofUtf8?_utf8, hsender.1, htag.1, or_self, if_false]

end Envelope

theorem Tag.isNodeId_name (tag : Tag) : IsNodeId tag.name := by
  cases tag <;> decide

theorem Tag.ofName?_name (tag : Tag) : Tag.ofName? tag.name = some tag := by
  cases tag <;> decide

theorem Tag.distinct_shape (tag : Tag) : tag.shape.Distinct := by
  cases tag <;>
    simp [Tag.shape, recordShape, Shape.Distinct, Wire.Fields.Distinct, Wire.Fields.names]

/-! ## Payloads -/

theorem NodeRecord.relay_toVal (r : NodeRecord) :
    (recordShape.relay r.toVal).map NodeRecord.ofVal = r.relay := by
  change Option.map _ (Option.bind (some r.nodeId) fun id ↦ Option.map (id, ·)
    (Option.bind (relayReal r.heartbeat) fun t ↦ Option.map (t, ·)
      (Option.bind (some r.isMaster) fun b ↦ Option.map (b, ·) (some ())))) = _
  rw [NodeRecord.relay]
  cases relayReal r.heartbeat <;> rfl

/-- A dictionary of values that are translated on both sides of the transfer. -/
theorem relayDict_map {α β : Type} {relay : α → Option α} {relay' : β → Option β} {f : β → α}
    {g : α → β} (h : ∀ b, (relay (f b)).map g = relay' b) (m : Std.ExtTreeMap String β) :
    (relayDict relay (m.map fun _ b ↦ f b)).map (·.map fun _ a ↦ g a) = relayDict relay' m := by
  have hentry (e : String × β) (acc : Std.ExtTreeMap String α) :
      (relayEntry relay acc (e.1, f e.2)).map (·.map fun _ a ↦ g a)
        = relayEntry relay' (acc.map fun _ a ↦ g a) e := by
    rw [relayEntry, relayEntry, ← h e.2, Option.map_map, Option.map_map]
    congr 1
    funext a
    refine Std.ExtTreeMap.ext_getElem? fun k ↦ ?_
    simp only [Function.comp_apply, Std.ExtTreeMap.getElem?_map, Std.ExtTreeMap.getElem?_insert]
    split <;> rfl
  have key (l : List (String × β)) (acc : Std.ExtTreeMap String α) :
      ((l.map fun e ↦ (e.1, f e.2)).foldlM (relayEntry relay) acc).map (·.map fun _ a ↦ g a)
        = l.foldlM (relayEntry relay') (acc.map fun _ a ↦ g a) := by
    induction l generalizing acc with
    | nil => rfl
    | cons e l ih =>
      rw [List.map_cons, List.foldlM_cons, List.foldlM_cons, ← hentry e acc]
      cases relayEntry relay acc (e.1, f e.2) with
      | none => rfl
      | some acc' => exact ih acc'
  rw [relayDict, relayDict, Std.ExtTreeMap.toList_map]
  refine (key m.toList ∅).trans ?_
  congr 1

theorem Message.relay_toVal (m : Message) :
    (m.tag.shape.relay m.toVal).map (Message.ofVal m.tag) = m.relay := by
  cases m with
  | heartbeat record =>
    have hrecord := record.relay_toVal
    change Option.map _ (Option.bind (recordShape.relay record.toVal) fun r ↦
      Option.map (r, ·) (some ())) = record.relay.map Message.heartbeat
    rw [← hrecord]
    cases recordShape.relay record.toVal <;> rfl
  | stateRequest requestId => rfl
  | stateResponse requestId nodes =>
    have hnodes := relayDict_map (fun r ↦ NodeRecord.relay_toVal r) nodes
    change Option.map _ (Option.bind (some requestId) fun id ↦ Option.map (id, ·)
      (Option.bind (relayDict recordShape.relay (nodes.map fun _ r ↦ r.toVal)) fun d ↦
        Option.map (d, ·) (some ()))) = (relayDict NodeRecord.relay nodes).map _
    rw [← hnodes]
    cases relayDict recordShape.relay (nodes.map fun _ r ↦ r.toVal) <;> rfl
  | candidacy c =>
    change Option.map _ (Option.bind (some c.nodeId) fun id ↦ Option.map (id, ·)
      (Option.bind (relayReal c.timestamp) fun t ↦ Option.map (t, ·) (some ())))
      = (relayReal c.timestamp).map _
    cases relayReal c.timestamp <;> rfl
  | vote candidate => rfl
  | elected winner => rfl

/-- The reader of an envelope reads the shape of its tag. -/
theorem Tag.decode_name (tag : Tag) (sender : String) (payload : Bytes) :
    (Envelope.mk sender tag.name payload).decode
      = match tag.shape.decode payload with
        | .ok v => .ok (.ofVal tag v)
        | .error error => .error (.payload tag.name error) := by
  rw [Envelope.decode]
  cases h : tag.shape.decode payload <;> simp only [Tag.ofName?_name, h]

/-- What the reader of an envelope makes of a payload that is a writing of the message. -/
theorem Message.toOption_decode_writing {m : Message} {payload : Bytes}
    (hpayload : m.tag.shape.Writing m.toVal payload) (sender : String) :
    (Envelope.mk sender m.tag.name payload).decode.toOption = m.relay := by
  rw [m.tag.decode_name, ← m.relay_toVal, ← Shape.decode_writing m.tag.distinct_shape hpayload]
  cases m.tag.shape.decode payload <;> rfl

/-- What the reader of an envelope makes of the message in it. -/
theorem Message.toOption_decode_encode (m : Message) (sender : String) :
    (m.encode sender).decode.toOption = m.relay :=
  toOption_decode_writing (m.tag.shape.writing_write m.toVal) sender

/-- The envelope of a letter comes back from its unit. -/
theorem Letter.parse_unit {l : Letter} (h : IsNodeId l.sender) :
    Envelope.parse l.unit = .ok (l.message.encode l.sender) :=
  Envelope.parse_toBytes h l.message.tag.isNodeId_name

/-- **Units are letters.** A unit gives back its sender and the relayed message. -/
theorem decodeUnit_unit {l : Letter} (h : IsNodeId l.sender) :
    (decodeUnit l.unit).toOption = l.message.relay.map (l.sender, ·) := by
  rw [decodeUnit, Letter.parse_unit h, ← Message.toOption_decode_encode l.message l.sender]
  dsimp only
  cases (l.message.encode l.sender).decode <;> rfl

/-! ## What a transfer keeps -/

/-- Times that a transfer keeps. -/
def IsExact (t : Float) : Prop := relayReal t = some t

instance (t : Float) : Decidable (IsExact t) := inferInstanceAs (Decidable (relayReal t = some t))

/-- A message and what it arrives as. -/
inductive Message.Relayed : Message → Message → Prop
  | heartbeat {r r' : NodeRecord} (hr : r.relay = some r') : Relayed (.heartbeat r) (.heartbeat r')
  | stateRequest (requestId : String) : Relayed (.stateRequest requestId) (.stateRequest requestId)
  | stateResponse (requestId : String) {nodes nodes' : IdMap NodeRecord}
      (hnodes : relayDict NodeRecord.relay nodes = some nodes') :
      Relayed (.stateResponse requestId nodes) (.stateResponse requestId nodes')
  | candidacy (c : Candidacy) (t : Float) : Relayed (.candidacy c) (.candidacy ⟨c.nodeId, t⟩)
  | vote (candidate : String) : Relayed (.vote candidate) (.vote candidate)
  | elected (winner : String) : Relayed (.elected winner) (.elected winner)

theorem Message.relayed_of_relay {m m' : Message} (h : m.relay = some m') : m.Relayed m' := by
  cases m with
  | heartbeat r =>
    obtain ⟨r', hr, rfl⟩ := Option.map_eq_some_iff.mp h
    exact .heartbeat hr
  | stateRequest requestId =>
    obtain rfl := Option.some.inj h
    exact .stateRequest requestId
  | stateResponse requestId nodes =>
    obtain ⟨nodes', hnodes, rfl⟩ := Option.map_eq_some_iff.mp h
    exact .stateResponse requestId hnodes
  | candidacy c =>
    obtain ⟨t, -, rfl⟩ := Option.map_eq_some_iff.mp h
    exact .candidacy c t
  | vote candidate =>
    obtain rfl := Option.some.inj h
    exact .vote candidate
  | elected winner =>
    obtain rfl := Option.some.inj h
    exact .elected winner

section Keeps

variable {m : Message}

theorem Message.of_relay_heartbeat {r' : NodeRecord} (h : m.relay = some (.heartbeat r')) :
    ∃ r, m = .heartbeat r ∧ r'.nodeId = r.nodeId ∧ r'.isMaster = r.isMaster := by
  cases relayed_of_relay h with
  | heartbeat hr => exact ⟨_, rfl, NodeRecord.of_relay hr⟩

theorem Message.of_relay_stateResponse {requestId : String} {nodes' : IdMap NodeRecord}
    (h : m.relay = some (.stateResponse requestId nodes')) :
    ∃ nodes, m = .stateResponse requestId nodes ∧
      ∀ (p : String) (r' : NodeRecord), nodes'[p]? = some r' →
        ∃ r, nodes[p]? = some r ∧ r'.nodeId = r.nodeId ∧ r'.isMaster = r.isMaster := by
  cases relayed_of_relay h with
  | stateResponse _ hnodes =>
    refine ⟨_, rfl, fun p r' hr' ↦ ?_⟩
    obtain ⟨r, hr, hrelay⟩ := Wire.of_relayDict hnodes hr'
    exact ⟨r, hr, NodeRecord.of_relay hrelay⟩

theorem Message.of_relay_candidacy {c' : Candidacy} (h : m.relay = some (.candidacy c')) :
    ∃ c, m = .candidacy c ∧ c'.nodeId = c.nodeId := by
  cases relayed_of_relay h with
  | candidacy c t => exact ⟨c, rfl, rfl⟩

theorem Message.of_relay_vote {v : String} (h : m.relay = some (.vote v)) : m = .vote v := by
  cases relayed_of_relay h
  rfl

theorem Message.of_relay_elected {w : String} (h : m.relay = some (.elected w)) :
    m = .elected w := by
  cases relayed_of_relay h
  rfl

end Keeps

theorem NodeRecord.relay_of_isExact {r : NodeRecord} (h : IsExact r.heartbeat) :
    r.relay = some r := by
  rw [NodeRecord.relay, h]
  rfl

end HeartbeatMesh
