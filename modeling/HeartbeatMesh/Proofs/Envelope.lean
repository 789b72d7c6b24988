import HeartbeatMesh.Proofs.Message.Relay

/-!
# What is an envelope

A unit is an envelope if it is laid out as one: two fields, each of them the UTF-8 bytes of a text
that is not empty and holds no space, and behind them whatever the payload is (`IsLaidOut`). The two
separators are the first two spaces of the unit, so the layout of a unit is its only one, and the
reader finds it: `parse` accepts what is laid out as an envelope and gives back the fields it has,
and it refuses all other units as malformed (`parse_exact`).
-/

namespace HeartbeatMesh.Envelope

variable {raw field rest bs : Bytes} {s : String} {e : Envelope}

/-! ## Fields -/

/-- The bytes can stand as a field of an envelope. -/
structure IsField (bs : Bytes) : Prop where
  nonempty : bs ≠ []
  spaceless : space ∉ bs
  valid : (ByteArray.mk bs.toArray).IsValidUTF8

/-- An id can be told by its bytes. -/
theorem isNodeId_iff : IsNodeId s ↔ Text.utf8 s ≠ [] ∧ space ∉ Text.utf8 s := by
  have hspace : space ∈ Text.utf8 s ↔ ' ' ∈ s.toList :=
    Text.mem_utf8_iff (show ' '.toNat < 0x80 by decide)
  rw [IsNodeId, ne_eq, ne_eq, Text.utf8_eq_nil_iff, hspace]

theorem isField_of_isNodeId (h : IsNodeId s) : IsField (Text.utf8 s) where
  nonempty := (isNodeId_iff.mp h).1
  spaceless := (isNodeId_iff.mp h).2
  valid := by simpa [Text.utf8] using s.isValidUTF8

/-- A field holds an id. -/
theorem IsField.exists_isNodeId (h : IsField bs) : ∃ s, IsNodeId s ∧ Text.utf8 s = bs := by
  have hread : Text.ofUtf8? bs = some (String.fromUTF8 ⟨bs.toArray⟩ h.valid) := by
    rw [Text.ofUtf8?, String.fromUTF8?, dif_pos h.valid]
  have htext := Text.ofUtf8?_eq_some_iff.mp hread
  refine ⟨_, isNodeId_iff.mpr ?_, htext.symm⟩
  rw [← htext]
  exact ⟨h.nonempty, h.spaceless⟩

/-! ## Cuts -/

/-- A cut is made at the first space. -/
theorem cut?_eq_some_iff :
    cut? raw = some (field, rest) ↔ space ∉ field ∧ raw = field ++ space :: rest := by
  constructor
  · intro h
    induction raw generalizing field with
    | nil => cases h
    | cons b bs ih =>
      rw [cut?] at h
      split_ifs at h with hb
      · obtain ⟨rfl, rfl⟩ := Prod.mk.inj (Option.some.inj h)
        exact ⟨List.not_mem_nil, by rw [hb, List.nil_append]⟩
      · obtain ⟨⟨field', rest'⟩, hcut, heq⟩ := Option.map_eq_some_iff.mp h
        obtain ⟨rfl, rfl⟩ := Prod.mk.inj heq
        obtain ⟨hspace, rfl⟩ := ih hcut
        refine ⟨fun hmem ↦ ?_, rfl⟩
        rcases List.mem_cons.mp hmem with rfl | hmem
        · exact hb rfl
        · exact hspace hmem
  · rintro ⟨hspace, rfl⟩
    exact cut?_append hspace rest

/-- The second cut is made in what the first one leaves. -/
theorem cut?_bind_eq_some_iff {sender tag payload : Bytes} :
    ((cut? raw).bind fun (sender, rest) ↦ (cut? rest).map (sender, ·))
        = some (sender, tag, payload) ↔
      space ∉ sender ∧ space ∉ tag ∧ raw = sender ++ space :: (tag ++ space :: payload) := by
  constructor
  · intro h
    obtain ⟨⟨sender', rest⟩, hfirst, hrest⟩ := Option.bind_eq_some_iff.mp h
    obtain ⟨⟨tag', payload'⟩, hsecond, heq⟩ := Option.map_eq_some_iff.mp hrest
    cases heq
    obtain ⟨hsender, rfl⟩ := cut?_eq_some_iff.mp hfirst
    obtain ⟨htag, rfl⟩ := cut?_eq_some_iff.mp hsecond
    exact ⟨hsender, htag, rfl⟩
  · rintro ⟨hsender, htag, rfl⟩
    have hrest := cut?_append htag payload
    simp only [cut?_append hsender, Option.bind_some, hrest, Option.map_some]

/-! ## Reading -/

/-- What is read is an envelope whose fields are ids, and the unit is that of the envelope. -/
theorem toBytes_of_parse (h : parse raw = .ok e) :
    IsNodeId e.sender ∧ IsNodeId e.tag ∧ e.toBytes = raw := by
  rw [parse] at h
  split at h
  · cases h
  · next sender tag payload hcut =>
    obtain ⟨hsender, htag, rfl⟩ := cut?_bind_eq_some_iff.mp hcut
    split at h
    · cases h
    · cases h
    · next s t hs ht =>
      split_ifs at h with hempty
      rw [not_or] at hempty
      obtain rfl := Text.ofUtf8?_eq_some_iff.mp hs
      obtain rfl := Text.ofUtf8?_eq_some_iff.mp ht
      obtain rfl := Except.ok.inj h
      refine ⟨isNodeId_iff.mpr ⟨?_, hsender⟩, isNodeId_iff.mpr ⟨?_, htag⟩, rfl⟩
      · exact mt Text.utf8_eq_nil_iff.mp hempty.1
      · exact mt Text.utf8_eq_nil_iff.mp hempty.2

/-- The unit is laid out as an envelope with the given fields and payload. -/
structure IsLaidOut (raw sender tag payload : Bytes) : Prop where
  isField_sender : IsField sender
  isField_tag : IsField tag
  eq_append : raw = sender ++ space :: (tag ++ space :: payload)

theorem isLaidOut_of_parse (h : parse raw = .ok e) :
    IsLaidOut raw (Text.utf8 e.sender) (Text.utf8 e.tag) e.payload := by
  obtain ⟨hsender, htag, hraw⟩ := toBytes_of_parse h
  exact ⟨isField_of_isNodeId hsender, isField_of_isNodeId htag, hraw.symm⟩

/-- The reader finds the layout of a unit, whatever the payload holds. -/
theorem IsLaidOut.exists_parse {sender tag payload : Bytes}
    (h : IsLaidOut raw sender tag payload) :
    ∃ e, parse raw = .ok e ∧ Text.utf8 e.sender = sender ∧ Text.utf8 e.tag = tag ∧
      e.payload = payload ∧ e.toBytes = raw := by
  obtain ⟨s, hs, rfl⟩ := h.isField_sender.exists_isNodeId
  obtain ⟨t, ht, rfl⟩ := h.isField_tag.exists_isNodeId
  obtain rfl := h.eq_append
  have hparse : parse (Envelope.mk s t payload).toBytes = .ok ⟨s, t, payload⟩ :=
    parse_toBytes hs ht
  exact ⟨_, hparse, rfl, rfl, rfl, rfl⟩

/-- **Reading accepts the units of the format and inverts writing.** A unit

* is read if and only if it is laid out as an envelope;
* has one layout at most, which is what the reader gives back, and from what is read it can be
  written again;
* is malformed if it is laid out otherwise.

Every envelope whose fields are ids is read back from its unit, so two of them never share one. -/
theorem parse_exact (raw : Bytes) :
    ((∃ e, parse raw = .ok e) ↔ ∃ sender tag payload, IsLaidOut raw sender tag payload) ∧
      (∀ sender tag payload, IsLaidOut raw sender tag payload →
        ∃ e, parse raw = .ok e ∧ Text.utf8 e.sender = sender ∧ Text.utf8 e.tag = tag ∧
          e.payload = payload ∧ e.toBytes = raw) ∧
      ((¬∃ sender tag payload, IsLaidOut raw sender tag payload) →
        ∃ defect, parse raw = .error defect ∧
          decodeUnit raw = .error (.malformed defect.message)) ∧
      (∀ e : Envelope, IsNodeId e.sender → IsNodeId e.tag → parse e.toBytes = .ok e) ∧
      ∀ e e' : Envelope, IsNodeId e.sender → IsNodeId e.tag → IsNodeId e'.sender →
        IsNodeId e'.tag → e.toBytes = e'.toBytes → e = e' := by
  refine ⟨⟨?_, ?_⟩, ?_, ?_, ?_, ?_⟩
  · rintro ⟨e, he⟩
    exact ⟨_, _, _, isLaidOut_of_parse he⟩
  · rintro ⟨sender, tag, payload, h⟩
    obtain ⟨e, he, -⟩ := h.exists_parse
    exact ⟨e, he⟩
  · intro sender tag payload h
    exact h.exists_parse
  · intro h
    cases hparse : parse raw with
    | ok e => exact absurd ⟨_, _, _, isLaidOut_of_parse hparse⟩ h
    | error defect => exact ⟨defect, rfl, by rw [decodeUnit, hparse]⟩
  · intro e hsender htag
    exact parse_toBytes hsender htag
  · intro e e' hsender htag hsender' htag' heq
    have hread := parse_toBytes hsender htag
    rw [heq, parse_toBytes hsender' htag'] at hread
    exact (Except.ok.inj hread).symm

/-- A payload may begin with a space and need not be text, but a unit that begins with one has no
sender. -/
theorem parse_exact_spaces :
    IsLaidOut [0x61, 0x20, 0x54, 0x20, 0x20, 0xff] [0x61] [0x54] [0x20, 0xff] ∧
      (∃ e, parse [0x61, 0x20, 0x54, 0x20, 0x20, 0xff] = .ok e ∧ e.payload = [0x20, 0xff]) ∧
      ∃ defect : Defect, decodeUnit [0x20, 0x54, 0x20] = .error (.malformed defect.message) := by
  have ha : IsField (Text.utf8 "a") := isField_of_isNodeId (by decide)
  have hT : IsField (Text.utf8 "T") := isField_of_isNodeId (by decide)
  have hlaid : IsLaidOut [0x61, 0x20, 0x54, 0x20, 0x20, 0xff] [0x61] [0x54] [0x20, 0xff] :=
    ⟨ha, hT, rfl⟩
  obtain ⟨-, hread, -⟩ := parse_exact [0x61, 0x20, 0x54, 0x20, 0x20, 0xff]
  obtain ⟨e, he, -, -, hpayload, -⟩ := hread _ _ _ hlaid
  obtain ⟨haccepts, -, hrefuses, -⟩ := parse_exact [0x20, 0x54, 0x20]
  have hnone : ¬∃ sender tag payload, IsLaidOut [0x20, 0x54, 0x20] sender tag payload := by
    rw [← haccepts]
    rintro ⟨e, he⟩
    have herror : parse [0x20, 0x54, 0x20] = .error .emptyField := by decide +kernel
    rw [herror] at he
    cases he
  obtain ⟨defect, -, hdefect⟩ := hrefuses hnone
  exact ⟨hlaid, ⟨e, he, hpayload⟩, defect, hdefect⟩

end HeartbeatMesh.Envelope
