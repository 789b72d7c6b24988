/-!
# Text as UTF-8 bytes

Units on a bus, payloads and files are byte lists; ids and other texts are strings. The two meet
here.

* `Text.utf8` writes a text as bytes and `Text.ofUtf8?` reads it back. Reading inverts writing
  (`ofUtf8?_utf8`) and accepts nothing else (`ofUtf8?_eq_some_iff`).
* `Text.fault?` finds the first place at which bytes stop being UTF-8, as a shell has to say where
  a line went wrong.
-/

namespace HeartbeatMesh

/-- Raw data: a unit on a bus, a payload, the content of a file. -/
abbrev Bytes := List UInt8

namespace Text

/-! ## Writing and reading -/

/-- The UTF-8 bytes of a text. -/
def utf8 (s : String) : Bytes := s.toByteArray.data.toList

/-- The text written by the bytes, if they are valid UTF-8. -/
def ofUtf8? (bs : Bytes) : Option String := String.fromUTF8? ⟨bs.toArray⟩

theorem ofUtf8?_eq_some_iff {bs : Bytes} {s : String} : ofUtf8? bs = some s ↔ bs = utf8 s := by
  constructor
  · intro h
    unfold ofUtf8? String.fromUTF8? at h
    split at h
    · rw [← Option.some.inj h]
      simp [utf8, String.fromUTF8]
    · cases h
  · rintro rfl
    have hv : (ByteArray.mk (utf8 s).toArray).IsValidUTF8 := by
      simpa [utf8] using s.isValidUTF8
    simp [ofUtf8?, String.fromUTF8?, hv]
    rfl

@[simp] theorem ofUtf8?_utf8 (s : String) : ofUtf8? (utf8 s) = some s :=
  ofUtf8?_eq_some_iff.2 rfl

theorem utf8_injective {s t : String} (h : utf8 s = utf8 t) : s = t :=
  Option.some.inj (by rw [← ofUtf8?_utf8 s, h, ofUtf8?_utf8])

@[simp] theorem utf8_eq_nil_iff {s : String} : utf8 s = [] ↔ s = "" := by
  constructor
  · intro h
    exact utf8_injective (by rw [h]; rfl)
  · rintro rfl
    rfl

/-! ## Where bytes stop being UTF-8 -/

/-- The first fault of bytes that are not UTF-8: the length of the valid part before it, and the
number of bytes that can begin no character, or `none` if the text breaks off inside one. -/
structure Fault where
  index : Nat
  length : Option Nat
  deriving Repr, DecidableEq

/-- The wording of a fault. -/
def Fault.message (f : Fault) : String :=
  match f.length with
  | some n => s!"invalid utf-8 sequence of {n} bytes from index {f.index}"
  | none => s!"incomplete utf-8 byte sequence from index {f.index}"

/-- What may follow a leading byte: for each further byte of the character its inclusive range.
`none` for a byte that leads nothing. -/
def continuations (b : UInt8) : Option (List (UInt8 × UInt8)) :=
  if b < 0x80 then some []
  else if b < 0xC2 then none
  else if b < 0xE0 then some [(0x80, 0xBF)]
  else if b = 0xE0 then some [(0xA0, 0xBF), (0x80, 0xBF)]
  else if b = 0xED then some [(0x80, 0x9F), (0x80, 0xBF)]
  else if b < 0xF0 then some [(0x80, 0xBF), (0x80, 0xBF)]
  else if b = 0xF0 then some [(0x90, 0xBF), (0x80, 0xBF), (0x80, 0xBF)]
  else if b < 0xF4 then some [(0x80, 0xBF), (0x80, 0xBF), (0x80, 0xBF)]
  else if b = 0xF4 then some [(0x80, 0x8F), (0x80, 0xBF), (0x80, 0xBF)]
  else none

/-- Reads on at `index`, `start` being where the current character began and `due` what it still
needs. -/
def faultFrom (index start : Nat) (due : List (UInt8 × UInt8)) : Bytes → Option Fault
  | [] => if due.isEmpty then none else some ⟨start, none⟩
  | b :: rest =>
    match due with
    | (lo, hi) :: due =>
      if lo ≤ b ∧ b ≤ hi then faultFrom (index + 1) start due rest
      else some ⟨start, some (index - start)⟩
    | [] =>
      match continuations b with
      | some due => faultFrom (index + 1) index due rest
      | none => some ⟨index, some 1⟩

/-- The first fault of the bytes, `none` if they are valid UTF-8. -/
def fault? (bs : Bytes) : Option Fault := faultFrom 0 0 [] bs

end Text

end HeartbeatMesh
