import HeartbeatMesh.Wire.Lexeme
import Mathlib.Data.List.Basic
import Mathlib.Data.Fintype.Basic

/-!
# Strings and their spellings

A string has many spellings, since every character of it may be escaped. The reader goes over a
spelling character by character, and each one takes it a step further whatever follows
(`readStringBytes_spells`), so all spellings of a string are read as the string
(`readString_spells`). A string as it is written is one of its spellings, and its bytes are valid
UTF-8 because they were a text before.
-/

namespace HeartbeatMesh.Wire

/-! ## Marks and words -/

theorem skipBlanks_cons {b : UInt8} (hb : isBlank b = false) (rest : Bytes) :
    skipBlanks (b :: rest) = b :: rest := by
  rw [skipBlanks, List.dropWhile_cons, if_neg (by simp [hb])]

theorem readMark_cons {mark : UInt8} (hm : isBlank mark = false) (rest : Bytes) :
    readMark mark (mark :: rest) = .ok rest := by
  rw [readMark, skipBlanks_cons hm, readWord, if_pos rfl, readWord]

theorem readWord_append (word rest : Bytes) : readWord word (word ++ rest) = .ok rest := by
  induction word with
  | nil => rfl
  | cons w ws ih => rw [List.cons_append, readWord, if_pos rfl, ih]

theorem utf8_null : Text.utf8 "null" = 0x6E :: Text.utf8 "ull" := by decide +kernel

theorem utf8_true : Text.utf8 "true" = 0x74 :: Text.utf8 "rue" := by decide +kernel

theorem utf8_false : Text.utf8 "false" = 0x66 :: Text.utf8 "alse" := by decide +kernel

/-! ## Spellings -/

/-- The first bytes, between quotes, stand for the second ones. Each character may be written as it
is, by a one letter escape, by its code unit or by a pair of them. -/
inductive Spells : Bytes → Bytes → Prop
  | nil : Spells [] []
  | plain {b : UInt8} {raw bs : Bytes} (hquote : b ≠ 0x22) (hbackslash : b ≠ 0x5C)
      (hcontrol : ¬b < 0x20) (hraw : Spells raw bs) : Spells (b :: raw) (b :: bs)
  | escape {e b : UInt8} {raw bs : Bytes} (he : simpleEscape? e = some b) (hraw : Spells raw bs) :
      Spells (0x5C :: e :: raw) (b :: bs)
  | unit {h₁ h₂ h₃ h₄ : UInt8} {n : Nat} {raw bs : Bytes} (hn : codeUnit? h₁ h₂ h₃ h₄ = some n)
      (hlow : isLowSurrogate n = false) (hhigh : isHighSurrogate n = false)
      (hraw : Spells raw bs) :
      Spells (0x5C :: 0x75 :: h₁ :: h₂ :: h₃ :: h₄ :: raw) (codePoint n ++ bs)
  | pair {h₁ h₂ h₃ h₄ l₁ l₂ l₃ l₄ : UInt8} {n m : Nat} {raw bs : Bytes}
      (hn : codeUnit? h₁ h₂ h₃ h₄ = some n) (hhigh : isHighSurrogate n = true)
      (hm : codeUnit? l₁ l₂ l₃ l₄ = some m) (hlow : isLowSurrogate m = true)
      (hraw : Spells raw bs) :
      Spells
        (0x5C :: 0x75 :: h₁ :: h₂ :: h₃ :: h₄ :: 0x5C :: 0x75 :: l₁ :: l₂ :: l₃ :: l₄ :: raw)
        (codePoint ((n - 0xD800) * 0x400 + (m - 0xDC00) + 0x10000) ++ bs)

/-- A string between its quotes, spelled in some way. -/
inductive IsText : String → Bytes → Prop
  | mk {s : String} {raw : Bytes} (hraw : Spells raw (Text.utf8 s)) :
      IsText s (0x22 :: (raw ++ [0x22]))

section Spellings

variable {raw bs : Bytes}

theorem readStringBytes_quote (acc rest : Bytes) :
    readStringBytes acc (0x22 :: rest) = .ok (acc.reverse, rest) := by
  rw [readStringBytes.eq_def]
  rfl

theorem readStringBytes_simpleEscape {e b : UInt8} (he : e ≠ 0x75) (hb : simpleEscape? e = some b)
    (acc rest : Bytes) :
    readStringBytes acc (0x5C :: e :: rest) = readStringBytes (b :: acc) rest := by
  rw [readStringBytes.eq_def]
  simp [he, hb]

theorem readStringBytes_plain {b : UInt8} (hq : b ≠ 0x22) (hs : b ≠ 0x5C) (hc : ¬b < 0x20)
    (acc rest : Bytes) : readStringBytes acc (b :: rest) = readStringBytes (b :: acc) rest := by
  rw [readStringBytes.eq_def]
  simp [hq, hs, hc]

theorem ne_of_simpleEscape? {e b : UInt8} (he : simpleEscape? e = some b) : e ≠ 0x75 := by
  rintro rfl
  cases he

theorem readStringBytes_spells (h : Spells raw bs) (acc rest : Bytes) :
    readStringBytes acc (raw ++ 0x22 :: rest) = .ok (acc.reverse ++ bs, rest) := by
  induction h generalizing acc with
  | nil => rw [List.nil_append, readStringBytes_quote, List.append_nil]
  | plain hquote hbackslash hcontrol _ ih =>
    rw [List.cons_append, readStringBytes_plain hquote hbackslash hcontrol, ih]
    simp
  | escape he _ ih =>
    rw [List.cons_append, List.cons_append,
      readStringBytes_simpleEscape (ne_of_simpleEscape? he) he, ih]
    simp
  | unit hn hlow hhigh _ ih =>
    rw [readStringBytes.eq_def]
    simp [hn, hlow, hhigh, ih]
  | @pair _ _ _ _ _ _ _ _ n m raw bs hn hhigh hm hlow _ ih =>
    have hnlow : isLowSurrogate n = false := by
      simp only [isHighSurrogate, isLowSurrogate, Bool.and_eq_true, decide_eq_true_eq,
        Bool.and_eq_false_iff, decide_eq_false_iff_not] at hhigh ⊢
      omega
    rw [readStringBytes.eq_def]
    simp [hn, hnlow, hhigh, hm, hlow, ih]

theorem readString_spells {s : String} (h : Spells raw (Text.utf8 s)) (rest : Bytes) :
    readString (raw ++ 0x22 :: rest) = .ok (s, rest) := by
  rw [readString, readStringBytes_spells h]
  simp [bind, Except.bind, pure, Except.pure]

/-! ## Written strings -/

/-- A control character is written as a code unit with two leading zeros, and reads as itself. -/
theorem codeUnit?_control {b : UInt8} (hb : b < 0x20) :
    codeUnit? 0x30 0x30 (hexDigit (b.toNat / 16)) (hexDigit (b.toNat % 16)) = some b.toNat ∧
      codePoint b.toNat = [b] := by
  have key : ∀ n : Fin 32,
      codeUnit? 0x30 0x30 (hexDigit (n / 16)) (hexDigit (n % 16)) = some n.val ∧
        codePoint n = [UInt8.ofNat n] := by decide
  have hlt : b.toNat < 32 := hb
  have h := key ⟨b.toNat, hlt⟩
  rwa [UInt8.ofNat_toNat] at h

theorem Spells.escapeByte_append (h : Spells raw bs) (b : UInt8) :
    Spells (escapeByte b ++ raw) (b :: bs) := by
  rw [escapeByte]
  split_ifs with hq hs h₁ h₂ h₃ h₄ h₅ hc
  · exact .escape (by rw [hq]; rfl) h
  · exact .escape (by rw [hs]; rfl) h
  · exact h₁ ▸ .escape rfl h
  · exact h₂ ▸ .escape rfl h
  · exact h₃ ▸ .escape rfl h
  · exact h₄ ▸ .escape rfl h
  · exact h₅ ▸ .escape rfl h
  · obtain ⟨hunit, hpoint⟩ := codeUnit?_control hc
    have hlt : b.toNat < 32 := hc
    have hspells := Spells.unit hunit (by simp [isLowSurrogate]; omega)
      (by simp [isHighSurrogate]; omega) h
    rwa [hpoint] at hspells
  · exact .plain hq hs hc h

theorem spells_flatMap_escapeByte : ∀ bs : Bytes, Spells (bs.flatMap escapeByte) bs
  | [] => .nil
  | b :: bs => (spells_flatMap_escapeByte bs).escapeByte_append b

end Spellings

theorem isText_writeString (s : String) : IsText s (writeString s) :=
  .mk (spells_flatMap_escapeByte _)

end HeartbeatMesh.Wire
