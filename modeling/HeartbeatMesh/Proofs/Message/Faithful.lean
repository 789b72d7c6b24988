import HeartbeatMesh.Proofs.IdMap
import HeartbeatMesh.Proofs.Message.Relay

/-!
# Messages arrive as they were sent, or not at all

A message that arrives is the one that was sent, as long as a transfer keeps its times
(`Message.relay_eq_self`). A message with a time that is no number does not arrive
(`Message.relay_eq_none`): the reader finds fault with its payload and takes it for no other
message.

The order in which the records of a view are written is left open. Whatever it is, the bytes are a
unit of the letter (`Letter.IsUnit`), and all units of a letter are read alike.
-/

namespace HeartbeatMesh

open Wire (relayReal_eq_none relayDict_eq_self relayDict_eq_none)

/-! ## Times -/

/-- The times that a message carries. -/
def Message.times : Message → List Float
  | .heartbeat record => [record.heartbeat]
  | .stateResponse _ nodes => nodes.values.map (·.heartbeat)
  | .candidacy candidate => [candidate.timestamp]
  | .stateRequest _ | .vote _ | .elected _ => []

theorem NodeRecord.relay_eq_none {r : NodeRecord} (h : r.heartbeat.isFinite = false) :
    r.relay = none := by
  rw [NodeRecord.relay, relayReal_eq_none h]
  rfl

theorem Message.relay_eq_self {m : Message} (h : ∀ t ∈ m.times, IsExact t) :
    m.relay = some m := by
  cases m with
  | heartbeat r =>
    rw [relay, NodeRecord.relay_of_isExact (h _ (List.mem_singleton_self _))]
    rfl
  | stateResponse requestId nodes =>
    have hnodes : Wire.relayDict NodeRecord.relay nodes = some nodes := by
      refine relayDict_eq_self fun k r hr ↦ NodeRecord.relay_of_isExact (h _ ?_)
      exact List.mem_map_of_mem (IdMap.mem_values_iff.mpr ⟨k, hr⟩)
    rw [relay, hnodes]
    rfl
  | candidacy c =>
    have ht : IsExact c.timestamp := h _ (List.mem_singleton_self _)
    rw [relay, ht]
    rfl
  | _ => rfl

theorem Message.relay_eq_none {m : Message} {t : Float} (ht : t ∈ m.times)
    (hfinite : t.isFinite = false) : m.relay = none := by
  cases m with
  | heartbeat r =>
    obtain rfl := List.mem_singleton.mp ht
    rw [relay, NodeRecord.relay_eq_none hfinite]
    rfl
  | stateResponse requestId nodes =>
    obtain ⟨r, hr, rfl⟩ := List.mem_map.mp ht
    obtain ⟨k, hk⟩ := IdMap.mem_values_iff.mp hr
    rw [relay, relayDict_eq_none hk (NodeRecord.relay_eq_none hfinite)]
    rfl
  | candidacy c =>
    obtain rfl := List.mem_singleton.mp ht
    rw [relay, relayReal_eq_none hfinite]
    rfl
  | _ => exact absurd ht List.not_mem_nil

/-! ## Units -/

/-- The bytes are a unit of the letter: an envelope of the sender with a writing of the message. -/
def Letter.IsUnit (l : Letter) (raw : Bytes) : Prop :=
  ∃ payload, l.message.tag.shape.Writing l.message.toVal payload ∧
    raw = (Envelope.mk l.sender l.message.tag.name payload).toBytes

namespace Letter

variable {l : Letter} {raw : Bytes}

theorem isUnit_unit (l : Letter) : l.IsUnit l.unit :=
  ⟨_, l.message.tag.shape.writing_write l.message.toVal, rfl⟩

/-- A unit of a letter is read as the relayed message, and the only fault it can have is one of the
payload. -/
theorem IsUnit.read (h : l.IsUnit raw) (hsender : IsNodeId l.sender) :
    (decodeUnit raw).toOption = l.message.relay.map (l.sender, ·) ∧
      ∀ e, decodeUnit raw = .error e → ∃ error, e = .payload l.message.tag.name error := by
  obtain ⟨payload, hpayload, rfl⟩ := h
  rw [decodeUnit, Envelope.parse_toBytes hsender l.message.tag.isNodeId_name,
    ← Message.toOption_decode_writing hpayload l.sender]
  dsimp only
  rw [l.message.tag.decode_name]
  cases l.message.tag.shape.decode payload with
  | ok v => exact ⟨rfl, fun e he ↦ by cases he⟩
  | error error => exact ⟨rfl, fun e he ↦ ⟨error, (Except.error.inj he).symm⟩⟩

/-- **The wire is faithful.** Whatever texts a letter holds, and in whatever order the records of a
view are written, a unit of the letter

* gives back the sender and the message, if a transfer keeps the times of the message;
* is refused for its payload, if one of these times is no number. -/
theorem decodeUnit_of_isUnit {l : Letter} (hsender : IsNodeId l.sender) :
    l.IsUnit (l.message.encode l.sender).toBytes ∧
      ∀ raw, l.IsUnit raw →
        ((∀ t ∈ l.message.times, IsExact t) → decodeUnit raw = .ok (l.sender, l.message)) ∧
        ((∃ t ∈ l.message.times, t.isFinite = false) →
          ∃ error, decodeUnit raw = .error (.payload l.message.tag.name error)) := by
  refine ⟨l.isUnit_unit, fun raw hraw ↦ ?_⟩
  obtain ⟨hread, herror⟩ := hraw.read hsender
  constructor
  · intro hexact
    rw [Message.relay_eq_self hexact] at hread
    cases h : decodeUnit raw with
    | ok r =>
      rw [h] at hread
      exact congrArg Except.ok (Option.some.inj hread)
    | error e =>
      rw [h] at hread
      cases hread
  · rintro ⟨t, ht, hfinite⟩
    rw [Message.relay_eq_none ht hfinite] at hread
    cases h : decodeUnit raw with
    | ok r =>
      rw [h] at hread
      cases hread
    | error e =>
      obtain ⟨error, rfl⟩ := herror e h
      exact ⟨error, rfl⟩

/-- A view of two records, under ids that need escapes. -/
def snapshot : Letter where
  sender := "n-1"
  message := .stateResponse "a \"b\" \\ \x07 é"
    (((∅ : IdMap NodeRecord).insert "" ⟨"", 12.5, true⟩).insert "c d" ⟨"c d", -0.0, false⟩)

theorem decodeUnit_of_isUnit_snapshot :
    (IsNodeId snapshot.sender ∧ ∀ t ∈ snapshot.message.times, IsExact t) ∧
      decodeUnit (snapshot.message.encode snapshot.sender).toBytes
        = .ok (snapshot.sender, snapshot.message) ∧
      ∃ error, decodeUnit (Message.encode (.candidacy ⟨"a", 0.0 / 0.0⟩) "n-1").toBytes
        = .error (.payload "MasterCandidate" error) := by
  have hsender : IsNodeId snapshot.sender := by decide
  have hexact : ∀ t ∈ snapshot.message.times, IsExact t := by decide +kernel
  obtain ⟨hunit, hread⟩ := decodeUnit_of_isUnit hsender
  obtain ⟨hunit', hread'⟩ := decodeUnit_of_isUnit
    (show IsNodeId (Letter.mk "n-1" (.candidacy ⟨"a", 0.0 / 0.0⟩)).sender from hsender)
  exact ⟨⟨hsender, hexact⟩, (hread _ hunit).1 hexact,
    (hread' _ hunit').2 ⟨_, List.mem_singleton_self _, by decide +kernel⟩⟩

end Letter

end HeartbeatMesh
