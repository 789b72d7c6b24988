import HeartbeatMesh.Proofs.Message.Relay
import HeartbeatMesh.Proofs.Wire.Layout

/-!
# Messages do not depend on how they are laid out

Nodes of other versions may write their payloads in another way, and put more into them. What a node
reads depends on none of that: on the order of the fields, on blanks, on escapes, and on fields that
its own version does not declare, whatever they hold.

The message that a literal tells is read from every payload with the literal, so in particular the
same message is read from the declared fields alone: `decode_scattered`.
-/

namespace HeartbeatMesh

open Wire

namespace Tag

/-- The message of a kind that a literal tells. -/
def message (tag : Tag) (l : tag.shape.Literal) : Message := .ofVal tag (tag.shape.value l)

theorem tag_message (tag : Tag) (l : tag.shape.Literal) : (tag.message l).tag = tag := by
  cases tag <;> rfl

theorem decode_of_payload {tag : Tag} {l : tag.shape.Literal} {payload : Bytes}
    (h : tag.shape.Payload l payload) (sender : String) :
    (Envelope.mk sender tag.name payload).decode = .ok (tag.message l) := by
  rw [tag.decode_name, Shape.decode_payload tag.distinct_shape h]
  rfl

/-- **Reading does not depend on layout.** Under each tag, a payload that is laid out freely and has
undeclared fields among the declared ones is read. It is read as a message of the tag, and as the
same message as the declared fields alone. -/
theorem decode_scattered {tag : Tag} {l : tag.shape.Literal} {payload : Bytes}
    (h : tag.shape.Payload l payload) (sender : String) :
    (tag.message l).tag = tag ∧
      (Envelope.mk sender tag.name payload).decode = .ok (tag.message l) ∧
      (Envelope.mk sender tag.name (tag.shape.plain l)).decode = .ok (tag.message l) :=
  ⟨tag.tag_message l, decode_of_payload h sender,
    decode_of_payload (Shape.payload_plain tag.distinct_shape l) sender⟩

/-- Twelve and a half, written with a point. -/
def literal : RealLiteral where
  text := Text.utf8 "12.5"
  value := 12.5
  isNumber := by
    have htail : IsTail [0x2E, 0x35] :=
      @IsTail.fraction [0x35] [] (by decide) (List.forall_mem_singleton.mpr rfl) .none
    have hdigits : ∀ d ∈ [0x31, 0x32], isDigit d = true :=
      List.forall_mem_cons.mpr ⟨rfl, List.forall_mem_singleton.mpr rfl⟩
    have hnumber : IsNumber [0x31, 0x32, 0x2E, 0x35] :=
      @IsNumber.mk [] [0x31, 0x32] _ (.inl rfl) (by decide) hdigits (by decide) htail
    have htext : Text.utf8 "12.5" = [0x31, 0x32, 0x2E, 0x35] := by decide +kernel
    rwa [htext]
  realOf?_text := by decide +kernel

/-- A view of one record. -/
def report : Tag.stateResponse.shape.Literal := ("r", [("k", ("k", literal, true, ()))], ())

/-- The view of `report` as another version may write it: the fields in another order, further ones
among them, blanks, and an escape that is not needed. -/
def scattered : Bytes :=
  Text.utf8 "\n \x7b\"nodes\" : \x7b\"\\u006b\":\x7b\"is_master\":true,"
    ++ Text.utf8 "\"zone\":[1,\x7b\"a\":null\x7d],\"heartbeat\":12.5,\"node_id\":\"k\"\x7d\x7d"
    ++ Text.utf8 " , \"extra\":\x7b \x7d,\"request_id\":\"r\" \x7d "

theorem payload_scattered : Tag.stateResponse.shape.Payload report scattered := by
  have hblank : IsBlanks [0x20] := List.forall_mem_singleton.mpr rfl
  have hbreak : IsBlanks [0x0A, 0x20] := List.forall_mem_cons.mpr ⟨rfl, hblank⟩
  obtain ⟨zone, hzone, hzoneText⟩ :
      ∃ bs, IsJson bs ∧ bs = Text.utf8 "[1,\x7b\"a\":null\x7d]" := by
    have hone : IsNumber [0x31] :=
      @IsNumber.mk [] [0x31] [] (.inl rfl) (by decide) (List.forall_mem_singleton.mpr rfl)
        (by decide) (.exponent .none)
    have hkey : IsStringBody [0x61] := .plain (by decide) (by decide) (by decide) .nil
    exact ⟨_, .elements .list (.cons (.list isBlanks_nil) (.number hone) isBlanks_nil
      (.last (.list isBlanks_nil) (.elements .object
        (.last (.object isBlanks_nil hkey isBlanks_nil isBlanks_nil) .null isBlanks_nil))
          isBlanks_nil)), by decide +kernel⟩
  have hempty : IsJson _ := .empty .object hblank
  -- The record, with its fields in reverse and one that is not declared.
  have hrecord : recordShape.Layout ("k", literal, true, ()) (writeObject
      [writeEntry "is_master" (Text.utf8 "true"), writeEntry "zone" zone,
        writeEntry "heartbeat" literal.text, writeEntry "node_id" (writeString "k")]) := by
    refine ⟨[("is_master", Text.utf8 "true"), ("zone", zone), ("heartbeat", literal.text),
      ("node_id", writeString "k")], ?_, ?_, isObject_writeObject _⟩
    · simp [Fields.MemberLayout, Shape.Layout, isText_writeString, hzone]
    · change ∀ name ∈ ["node_id", "heartbeat", "is_master"],
        ["is_master", "zone", "heartbeat", "node_id"].count name = 1
      decide
  have hkey : Spells (Text.utf8 "\\u006b") (Text.utf8 "k") := by
    have hunit := Spells.unit (show codeUnit? 0x30 0x30 0x36 0x62 = some 0x6B by decide) rfl rfl
      .nil
    have hraw : Text.utf8 "\\u006b" = [0x5C, 0x75, 0x30, 0x30, 0x36, 0x62] := by decide +kernel
    have hk : Text.utf8 "k" = codePoint 0x6B ++ [] := by decide +kernel
    rwa [hraw, hk]
  obtain ⟨nodes, hnodes, hnodesText⟩ : ∃ bs,
      (Shape.dict recordShape).Layout [("k", ("k", literal, true, ()))] bs ∧ bs = _ :=
    ⟨_, ⟨_, _, fun _ ↦ rfl, .cons ⟨rfl, hrecord⟩ .nil,
      .members (.last (.mk isBlanks_nil hkey (.mk isBlanks_nil isBlanks_nil)) isBlanks_nil)⟩, rfl⟩
  refine ⟨[0x0A, 0x20], _, [0x20], hbreak, ⟨[("nodes", nodes), ("extra", [0x7B, 0x20, 0x7D]),
    ("request_id", writeString "r")], ?_, ?_,
      .members (.cons (.mk isBlanks_nil (spells_flatMap_escapeByte _) (.mk hblank hblank)) hblank
        (.cons (.mk hblank (spells_flatMap_escapeByte _) (.mk isBlanks_nil isBlanks_nil))
          isBlanks_nil (.last (.mk isBlanks_nil (spells_flatMap_escapeByte _)
            (.mk isBlanks_nil isBlanks_nil)) hblank)))⟩, hblank, ?_⟩
  · have hrequest : Shape.text.Layout "r" (writeString "r") := isText_writeString "r"
    simpa [Fields.MemberLayout, report] using ⟨hnodes, hempty, hrequest⟩
  · change ∀ name ∈ ["request_id", "nodes"], ["nodes", "extra", "request_id"].count name = 1
    decide
  · rw [hnodesText, hzoneText]
    decide +kernel

theorem decode_scattered_report : Tag.stateResponse.shape.Payload report scattered ∧
    (Envelope.mk "n" "ClusterStateResponse" scattered).decode
      = .ok (.stateResponse "r" ((∅ : IdMap NodeRecord).insert "k" ⟨"k", 12.5, true⟩)) := by
  have hmessage : stateResponse.message report
      = .stateResponse "r" ((∅ : IdMap NodeRecord).insert "k" ⟨"k", 12.5, true⟩) := by
    decide +kernel
  exact ⟨payload_scattered, hmessage ▸ (decode_scattered payload_scattered "n").2.1⟩

end Tag

end HeartbeatMesh
