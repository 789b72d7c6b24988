import HeartbeatMesh.Proofs.Wire.Real
import Mathlib.Data.List.DropRight
import Mathlib.Data.List.TakeWhile

/-!
# The grammar of payloads

Which bytes are JSON, said without a reader: blanks, strings, numbers, and from them the values,
nested as deeply as they like. Any blanks may stand between two tokens, so the grammar is a relation
and not a printer.

A string in a value that nobody asked for is looked at less closely than one that is wanted: its
code units need not pair up, and its bytes need not be UTF-8 (`IsStringBody`).
-/

namespace HeartbeatMesh.Wire

/-! ## Blanks -/

/-- White space between two tokens. -/
def IsBlanks (ws : Bytes) : Prop := ∀ b ∈ ws, isBlank b = true

section Blanks

variable {ws : Bytes}

theorem isBlanks_nil : IsBlanks [] := fun _ hb ↦ absurd hb List.not_mem_nil

theorem skipBlanks_append (hws : IsBlanks ws) (bs : Bytes) :
    skipBlanks (ws ++ bs) = skipBlanks bs :=
  List.dropWhile_append_of_pos hws

theorem skipBlanks_eq_nil (hws : IsBlanks ws) : skipBlanks ws = [] :=
  List.dropWhile_eq_nil_iff.mpr hws

theorem skipBlanks_skipBlanks (bs : Bytes) : skipBlanks (skipBlanks bs) = skipBlanks bs :=
  List.dropWhile_idempotent isBlank bs

theorem readMark_append (hws : IsBlanks ws) (mark : UInt8) (bs : Bytes) :
    readMark mark (ws ++ bs) = readMark mark bs := by
  rw [readMark, skipBlanks_append hws, readMark]

/-- No blank goes on with a number. -/
theorem EndsNumber.blanks_append (hws : IsBlanks ws) {rest : Bytes} (hrest : EndsNumber rest) :
    EndsNumber (ws ++ rest) := by
  intro b hb
  cases ws with
  | nil => exact hrest b hb
  | cons w ws =>
    obtain rfl : w = b := Option.some.inj hb
    have hw : isBlank w = true := hws w List.mem_cons_self
    simp only [isBlank, Bool.or_eq_true, decide_eq_true_eq] at hw
    rcases hw with ((rfl | rfl) | rfl) | rfl <;> decide

end Blanks

/-! ## Strings that are read past -/

/-- The bytes of a string between its quotes, with escapes that need not stand for anything. -/
inductive IsStringBody : Bytes → Prop
  | nil : IsStringBody []
  | plain {b : UInt8} {raw : Bytes} (hquote : b ≠ 0x22) (hbackslash : b ≠ 0x5C)
      (hcontrol : ¬b < 0x20) (hraw : IsStringBody raw) : IsStringBody (b :: raw)
  | escape {e b : UInt8} {raw : Bytes} (he : simpleEscape? e = some b) (hraw : IsStringBody raw) :
      IsStringBody (0x5C :: e :: raw)
  | unit {h₁ h₂ h₃ h₄ : UInt8} {n : Nat} {raw : Bytes} (hn : codeUnit? h₁ h₂ h₃ h₄ = some n)
      (hraw : IsStringBody raw) : IsStringBody (0x5C :: 0x75 :: h₁ :: h₂ :: h₃ :: h₄ :: raw)

/-! ## Numbers -/

/-- The text of a number: a sign that may be missing, digits, and a fraction or an exponent. A zero
in front of the digits stands alone. -/
inductive IsNumber : Bytes → Prop
  | mk {sign ds t : Bytes} (hsign : sign = [] ∨ sign = [0x2D]) (hne : ds ≠ [])
      (hds : ∀ d ∈ ds, isDigit d = true) (hzero : ds.head? = some 0x30 → ds = [0x30])
      (ht : IsTail t) : IsNumber (sign ++ (ds ++ t))

theorem IsNumber.takes {bs : Bytes} (h : IsNumber bs) : Takes (Shape.read .real) bs := by
  obtain ⟨hsign, hne, hds, -, ht⟩ := h
  obtain ⟨hplain, hsigned⟩ := takes_read_real (.mk hne hds ht)
  rcases hsign with rfl | rfl
  · exact hplain
  · exact hsigned

/-! ## Values -/

/-- The byte that opens a bracket. -/
def Bracket.opening : Bracket → UInt8
  | .list => 0x5B
  | .object => 0x7B

/-- What stands before the value of an element: blanks, and in an object its key and a colon. -/
inductive IsLabel : Bracket → Bytes → Prop
  | list {ws : Bytes} (hws : IsBlanks ws) : IsLabel .list ws
  | object {ws raw ws' ws'' : Bytes} (hws : IsBlanks ws) (hraw : IsStringBody raw)
      (hws' : IsBlanks ws') (hws'' : IsBlanks ws'') :
      IsLabel .object (ws ++ 0x22 :: (raw ++ 0x22 :: (ws' ++ 0x3A :: ws'')))

mutual
/-- The text of a JSON value, without blanks around it. -/
inductive IsJson : Bytes → Prop
  | null : IsJson (Text.utf8 "null")
  | flag (b : Bool) : IsJson (Text.utf8 (cond b "true" "false"))
  | number {bs : Bytes} (hbs : IsNumber bs) : IsJson bs
  | string {raw : Bytes} (hraw : IsStringBody raw) : IsJson (0x22 :: (raw ++ [0x22]))
  | empty (b : Bracket) {ws : Bytes} (hws : IsBlanks ws) :
      IsJson (b.opening :: (ws ++ [b.close]))
  | elements (b : Bracket) {bs : Bytes} (hbs : IsElements b bs) :
      IsJson (b.opening :: (bs ++ [b.close]))
/-- The elements of a list or an object, of which there is at least one. -/
inductive IsElements : Bracket → Bytes → Prop
  | last {b : Bracket} {label value ws : Bytes} (hlabel : IsLabel b label)
      (hvalue : IsJson value) (hws : IsBlanks ws) : IsElements b (label ++ (value ++ ws))
  | cons {b : Bracket} {label value ws rest : Bytes} (hlabel : IsLabel b label)
      (hvalue : IsJson value) (hws : IsBlanks ws) (hrest : IsElements b rest) :
      IsElements b (label ++ (value ++ (ws ++ 0x2C :: rest)))
end

end HeartbeatMesh.Wire
