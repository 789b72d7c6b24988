import HeartbeatMesh.Proofs.Text.Ascii
import HeartbeatMesh.Proofs.Wire.Text
import HeartbeatMesh.Wire.Shape

/-!
# Reals read back as something, or not at all

What a reader makes of a written real number need not be that number: the significand is rounded
when it is read. What matters for everything around it is that the reader stops where the number
stops, and that the outcome does not depend on what follows (`read_writeReal`). `relayReal` is that
outcome, and `none` for NaN and the infinities.

The argument is about the form of the text only. A numeral is a sign, digits, and a fraction or an
exponent, and each part of the reader takes its own part of the numeral off the front.
-/

namespace HeartbeatMesh.Wire

/-! ## Readers that stop in time -/

/-- What may follow a number: nothing that could go on with it. -/
def EndsNumber (rest : Bytes) : Prop :=
  ∀ b ∈ rest.head?, isDigit b = false ∧ b ≠ 0x2E ∧ b ≠ 0x65 ∧ b ≠ 0x45

/-- Whatever ends a number may follow the text: the reader takes the text and leaves that, or finds
fault with the text. -/
def Takes {α : Type} (read : Reader α) (text : Bytes) : Prop :=
  ∃ r : Except ReadError α, ∀ rest, EndsNumber rest → read (text ++ rest) = r.map (·, rest)

theorem Takes.error {α : Type} {read : Reader α} {text : Bytes} {e : ReadError}
    (h : ∀ rest, EndsNumber rest → read (text ++ rest) = .error e) : Takes read text :=
  ⟨.error e, h⟩

/-- Going on with a value that has been read keeps the point at which the reader stops. -/
theorem Takes.map {α β : Type} {read : Reader α} {text : Bytes} (h : Takes read text) (f : α → β) :
    Takes (fun bs ↦ do let (v, rest) ← read bs; return (f v, rest)) text := by
  obtain ⟨r, hr⟩ := h
  refine ⟨r.map f, fun rest hrest ↦ ?_⟩
  simp only [hr rest hrest]
  cases r <;> rfl

/-! ## Runs of digits -/

section Digits

variable {ds bs : Bytes}

theorem takeWhile_isDigit_append (hds : ∀ d ∈ ds, isDigit d = true)
    (hbs : ∀ b ∈ bs.head?, isDigit b = false) : (ds ++ bs).takeWhile isDigit = ds := by
  rw [List.takeWhile_append_of_pos hds]
  cases bs with
  | nil => rw [List.takeWhile_nil, List.append_nil]
  | cons b bs => rw [List.takeWhile_cons, if_neg (by simp [hbs b rfl]), List.append_nil]

theorem dropWhile_isDigit_append (hds : ∀ d ∈ ds, isDigit d = true)
    (hbs : ∀ b ∈ bs.head?, isDigit b = false) : (ds ++ bs).dropWhile isDigit = bs := by
  rw [List.dropWhile_append_of_pos hds]
  cases bs with
  | nil => rfl
  | cons b bs => rw [List.dropWhile_cons, if_neg (by simp [hbs b rfl])]

end Digits

theorem isBlank_of_isDigit {b : UInt8} (hb : isDigit b = true) : isBlank b = false := by
  by_contra h
  rw [Bool.not_eq_false, isBlank, Bool.or_eq_true, Bool.or_eq_true, Bool.or_eq_true] at h
  simp only [decide_eq_true_eq] at h
  rcases h with ((rfl | rfl) | rfl) | rfl <;> exact absurd hb (by decide)

/-! ## Numerals -/

/-- The exponent of a numeral: nothing, or a letter, a sign that may be missing, and digits. -/
inductive IsExponent : Bytes → Prop
  | none : IsExponent []
  | some {letter : UInt8} {sign ds : Bytes} (hletter : letter = 0x65 ∨ letter = 0x45)
      (hsign : sign = [] ∨ sign = [0x2B] ∨ sign = [0x2D]) (hne : ds ≠ [])
      (hds : ∀ d ∈ ds, isDigit d = true) : IsExponent (letter :: (sign ++ ds))

/-- What follows the digits before the point of a numeral. -/
inductive IsTail : Bytes → Prop
  | exponent {e : Bytes} (he : IsExponent e) : IsTail e
  | fraction {ds e : Bytes} (hne : ds ≠ []) (hds : ∀ d ∈ ds, isDigit d = true)
      (he : IsExponent e) : IsTail (0x2E :: ds ++ e)

/-- The text of a number without its sign. -/
inductive IsUnsigned : Bytes → Prop
  | mk {ds t : Bytes} (hne : ds ≠ []) (hds : ∀ d ∈ ds, isDigit d = true) (ht : IsTail t) :
      IsUnsigned (ds ++ t)

/-- No exponent goes on with the digits before it, nor does what follows it. -/
theorem IsExponent.head?_append {e rest : Bytes} (he : IsExponent e) (hrest : EndsNumber rest) :
    ∀ b ∈ (e ++ rest).head?, isDigit b = false ∧ b ≠ 0x2E := by
  intro b hb
  cases he with
  | none => exact ⟨(hrest b hb).1, (hrest b hb).2.1⟩
  | @some letter _ _ hletter =>
    obtain rfl : letter = b := Option.some.inj hb
    rcases hletter with rfl | rfl <;> decide

theorem IsTail.head?_append {t rest : Bytes} (ht : IsTail t) (hrest : EndsNumber rest) :
    ∀ b ∈ (t ++ rest).head?, isDigit b = false := by
  intro b hb
  cases ht with
  | exponent he => exact (he.head?_append hrest b hb).1
  | fraction =>
    obtain rfl : 0x2E = b := Option.some.inj hb
    decide

/-- The number of `significand * 10 ^ e` with its sign, unless it is too large. -/
def scaledReal (negative : Bool) (significand : Nat) (e : Int) : Except ReadError Float :=
  match scale? significand e with
  | some x => .ok (if negative then -x else x)
  | none => .error .malformed

theorem readScaled_plain (negative : Bool) (significand : Nat) (shift : Int) {bs : Bytes}
    (hbs : ∀ b ∈ bs.head?, b ≠ 0x65 ∧ b ≠ 0x45) :
    readScaled negative significand shift bs
      = (scaledReal negative significand shift).map (·, bs) := by
  cases bs with
  | nil =>
    simp only [readScaled, scaledReal]
    cases scale? significand shift <;> rfl
  | cons b bs =>
    obtain ⟨h₁, h₂⟩ := hbs b rfl
    simp only [readScaled, scaledReal, h₁, h₂, or_self, if_false]
    cases scale? significand shift <;> rfl

/-- The sign of an exponent is looked at before its digits. -/
theorem readScaled_exponent (negative : Bool) (significand : Nat) (shift : Int) {letter : UInt8}
    {sign ds rest : Bytes} (hletter : letter = 0x65 ∨ letter = 0x45)
    (hsign : sign = [] ∨ sign = [0x2B] ∨ sign = [0x2D]) (hne : ds ≠ [])
    (hds : ∀ d ∈ ds, isDigit d = true) (hrest : ∀ b ∈ rest.head?, isDigit b = false) :
    readScaled negative significand shift (letter :: (sign ++ (ds ++ rest)))
      = if natValue ds ≤ maxExponent then
          (scaledReal negative significand
            (if sign = [0x2D] then shift - natValue ds else shift + natValue ds)).map (·, rest)
        else if significand = 0 ∨ sign = [0x2D] then .ok (if negative then -0.0 else 0.0, rest)
        else .error .malformed := by
  have htake := takeWhile_isDigit_append hds hrest
  have hdrop := dropWhile_isDigit_append hds hrest
  obtain ⟨d, ds', rfl⟩ := List.exists_cons_of_ne_nil hne
  have hd : isDigit d = true := hds d List.mem_cons_self
  rw [List.cons_append] at htake hdrop
  rcases hsign with rfl | rfl | rfl
  · -- Without a sign the first digit stands where the sign would.
    have hplus : d ≠ 0x2B := fun h ↦ absurd (h ▸ hd) (by decide)
    have hminus : d ≠ 0x2D := fun h ↦ absurd (h ▸ hd) (by decide)
    simp only [readScaled, scaledReal, List.cons_append, List.nil_append, hletter, if_true, hplus,
      hminus, if_false]
    cases hx : scale? significand (shift + natValue (d :: ds')) <;>
      simp [hx, hd, htake, hdrop, Except.map]
  · simp only [readScaled, scaledReal, List.cons_append, List.nil_append, hletter, if_true]
    cases hx : scale? significand (shift + natValue (d :: ds')) <;>
      simp [hx, hd, htake, hdrop, Except.map]
  · simp only [readScaled, scaledReal, List.cons_append, List.nil_append, hletter, if_true]
    cases hx : scale? significand (shift - natValue (d :: ds')) <;>
      simp [hx, hd, htake, hdrop, Except.map]

theorem readScaled_takes (negative : Bool) (significand : Nat) (shift : Int) {e : Bytes}
    (he : IsExponent e) : Takes (readScaled negative significand shift) e := by
  cases he with
  | none =>
    exact ⟨_, fun rest hrest ↦ readScaled_plain _ _ _ fun b hb ↦ (hrest b hb).2.2⟩
  | @some letter sign ds hletter hsign hne hds =>
    refine ⟨if natValue ds ≤ maxExponent then
        scaledReal negative significand
          (if sign = [0x2D] then shift - natValue ds else shift + natValue ds)
      else if significand = 0 ∨ sign = [0x2D] then .ok (if negative then -0.0 else 0.0)
      else .error .malformed, fun rest hrest ↦ ?_⟩
    rw [List.cons_append, List.append_assoc,
      readScaled_exponent _ _ _ hletter hsign hne hds fun b hb ↦ (hrest b hb).1]
    split_ifs <;> rfl

/-- Without a point only an exponent, or digits that were left out, make a number a real one. -/
theorem readTail_plain (negative : Bool) (significand dropped : Nat) {bs : Bytes}
    (hbs : ∀ b ∈ bs.head?, b ≠ 0x2E) :
    readTail negative significand dropped bs
      = if 0 < dropped ∨ bs.head? = some 0x65 ∨ bs.head? = some 0x45 then do
          let (x, rest) ← readScaled negative significand dropped bs
          return (.real x, rest)
        else if ¬ negative then .ok (.integer significand, bs)
        else if significand = 0 ∨ 1 <<< 63 < significand then
          .ok (.real (-(Float.ofNat significand)), bs)
        else .ok (.integer (-significand), bs) := by
  rw [readTail.eq_def]
  split
  · exact absurd rfl (hbs 0x2E rfl)
  · rfl

theorem readTail_takes (negative : Bool) (significand dropped : Nat) {t : Bytes} (ht : IsTail t) :
    Takes (readTail negative significand dropped) t := by
  cases ht with
  | @fraction ds e hne hds he =>
    obtain ⟨r, hr⟩ := (readScaled_takes negative (gather significand ds).1
      (dropped - (ds.length - (gather significand ds).2.length : Nat)) he).map Number.real
    refine ⟨r, fun rest hrest ↦ ?_⟩
    have hstop : ∀ b ∈ (e ++ rest).head?, isDigit b = false :=
      fun b hb ↦ (he.head?_append hrest b hb).1
    have hempty : ds.isEmpty = false := by simpa using hne
    rw [← hr rest hrest, List.append_assoc, List.cons_append, readTail]
    simp only [takeWhile_isDigit_append hds hstop, dropWhile_isDigit_append hds hstop, hempty,
      Bool.false_eq_true, if_false]
  | exponent he =>
    have hplain (rest : Bytes) (hrest : EndsNumber rest) :
        readTail negative significand dropped (t ++ rest) = _ :=
      readTail_plain negative significand dropped fun b hb ↦ (he.head?_append hrest b hb).2
    obtain ⟨r, hr⟩ := (readScaled_takes negative significand dropped he).map Number.real
    -- Without an exponent the number is an integer, unless digits were left out.
    by_cases hreal : 0 < dropped ∨ t ≠ []
    · refine ⟨r, fun rest hrest ↦ ?_⟩
      have hhead : 0 < dropped ∨ (t ++ rest).head? = some 0x65 ∨ (t ++ rest).head? = some 0x45 := by
        refine hreal.imp_right fun ht ↦ ?_
        cases he with
        | none => exact absurd rfl ht
        | some hletter => exact hletter.imp (congrArg _) (congrArg _)
      rw [hplain rest hrest, if_pos hhead]
      exact hr rest hrest
    · obtain ⟨hdropped, rfl⟩ : ¬0 < dropped ∧ t = [] := by simpa [not_or] using hreal
      refine ⟨if ¬ negative then .ok (.integer significand)
        else if significand = 0 ∨ 1 <<< 63 < significand then
          .ok (.real (-(Float.ofNat significand)))
        else .ok (.integer (-significand)), fun rest hrest ↦ ?_⟩
      have hhead : ¬(0 < dropped ∨ ([] ++ rest).head? = some 0x65
          ∨ ([] ++ rest).head? = some 0x45) := by
        rintro (h | h | h)
        · exact hdropped h
        · exact (hrest _ h).2.2.1 rfl
        · exact (hrest _ h).2.2.2 rfl
      rw [hplain rest hrest, if_neg hhead]
      split_ifs <;> rfl

theorem readUnsigned_takes (negative : Bool) {bs : Bytes} (hbs : IsUnsigned bs) :
    Takes (readUnsigned negative) bs := by
  obtain ⟨hne, hds, ht⟩ := hbs
  rename_i ds t
  obtain ⟨d, ds', rfl⟩ := List.exists_cons_of_ne_nil hne
  have hd : isDigit d = true := hds d List.mem_cons_self
  by_cases hzero : d = 0x30
  · -- A leading zero stands alone, or the number is malformed.
    subst hzero
    cases ds' with
    | nil =>
      obtain ⟨r, hr⟩ := readTail_takes negative 0 0 ht
      refine ⟨r, fun rest hrest ↦ ?_⟩
      have hhead : ((t ++ rest).head?.map isDigit).getD false = false := by
        cases hb : (t ++ rest).head? with
        | none => rfl
        | some b => exact ht.head?_append hrest b hb
      rw [← hr rest hrest, List.cons_append, List.nil_append, List.cons_append, readUnsigned]
      simp only [hhead, if_true, Bool.false_eq_true, if_false]
    | cons d ds' =>
      refine .error (e := .malformed) fun rest hrest ↦ ?_
      have hd' : isDigit d = true := hds d (by simp)
      rw [List.cons_append, List.cons_append, List.cons_append, List.cons_append, readUnsigned]
      simp [hd']
  · obtain ⟨r, hr⟩ := readTail_takes negative (gather 0 (d :: ds')).1
      (gather 0 (d :: ds')).2.length ht
    refine ⟨r, fun rest hrest ↦ ?_⟩
    have hstop := ht.head?_append hrest
    have htake := takeWhile_isDigit_append hds hstop
    have hdrop := dropWhile_isDigit_append hds hstop
    rw [← hr rest hrest, List.append_assoc]
    rw [List.cons_append] at htake hdrop ⊢
    rw [readUnsigned]
    simp only [hzero, if_false, hd, if_true, htake, hdrop]

theorem readNumber_takes {bs : Bytes} (hbs : IsUnsigned bs) :
    Takes readNumber bs ∧ Takes readNumber (0x2D :: bs) := by
  constructor
  · obtain ⟨r, hr⟩ := readUnsigned_takes false hbs
    refine ⟨r, fun rest hrest ↦ ?_⟩
    obtain ⟨hne, hds, ht⟩ := hbs
    rename_i ds t
    obtain ⟨d, ds', rfl⟩ := List.exists_cons_of_ne_nil hne
    have hd : d ≠ 0x2D := by
      rintro rfl
      exact absurd (hds 0x2D List.mem_cons_self) (by decide)
    rw [← hr rest hrest, readNumber.eq_def]
    split
    · rename_i heq
      exact absurd (List.cons.inj heq).1 hd
    · rfl
  · obtain ⟨r, hr⟩ := readUnsigned_takes true hbs
    exact ⟨r, fun rest hrest ↦ by rw [List.cons_append, readNumber]; exact hr rest hrest⟩

/-! ## The text of a real number -/

theorem isDigit_asciiByte {c : Char} (hc : c.isDigit = true) :
    isDigit (Text.asciiByte c) = true ∧ c.toNat < 0x80 := by
  simp only [Char.isDigit, Bool.and_eq_true, decide_eq_true_eq, UInt32.le_iff_toNat_le] at hc
  obtain ⟨hlow, hhigh⟩ : 48 ≤ c.toNat ∧ c.toNat ≤ 57 := hc
  have hascii : c.toNat < 0x80 := by omega
  refine ⟨?_, hascii⟩
  rw [isDigit, Bool.and_eq_true, decide_eq_true_eq, decide_eq_true_eq, UInt8.le_iff_toNat_le,
    UInt8.le_iff_toNat_le, Text.toNat_asciiByte hascii]
  exact ⟨hlow, hhigh⟩

/-- Characters that are the text of a number without its sign. -/
def IsNumeral (cs : List Char) : Prop :=
  (∀ c ∈ cs, c.toNat < 0x80) ∧ IsUnsigned (cs.map Text.asciiByte)

section Layout

variable {whole fraction ds : List Char}

theorem isDigit_map (hds : ∀ c ∈ ds, c.isDigit = true) :
    ∀ d ∈ ds.map Text.asciiByte, isDigit d = true := by
  intro d hd
  obtain ⟨c, hc, rfl⟩ := List.mem_map.mp hd
  exact (isDigit_asciiByte (hds c hc)).1

/-- Digits, a point and digits. -/
theorem isNumeral_point (hw : whole ≠ []) (hws : ∀ c ∈ whole, c.isDigit = true)
    (hf : fraction ≠ []) (hfs : ∀ c ∈ fraction, c.isDigit = true) :
    IsNumeral (whole ++ '.' :: fraction) := by
  constructor
  · intro c hc
    rw [List.mem_append, List.mem_cons] at hc
    rcases hc with hc | rfl | hc
    · exact (isDigit_asciiByte (hws c hc)).2
    · decide
    · exact (isDigit_asciiByte (hfs c hc)).2
  · rw [List.map_append, List.map_cons]
    refine .mk (by simpa using hw) (isDigit_map hws) ?_
    rw [← List.append_nil (List.map _ fraction), ← List.cons_append]
    exact .fraction (by simpa using hf) (isDigit_map hfs) .none

/-- The digits of an exponent and the sign before them. -/
theorem isExponent_map (sign : Char) (hsign : sign = '+' ∨ sign = '-') (hne : ds ≠ [])
    (hds : ∀ c ∈ ds, c.isDigit = true) :
    IsExponent (('e' :: sign :: ds).map Text.asciiByte) := by
  refine @IsExponent.some _ [Text.asciiByte sign] _ (.inl rfl) (.inr ?_) (by simpa using hne)
    (isDigit_map hds)
  rcases hsign with rfl | rfl
  · exact .inl rfl
  · exact .inr rfl

/-- Digits, perhaps a fraction, and an exponent. -/
theorem isNumeral_exponent (sign : Char) (hsign : sign = '+' ∨ sign = '-')
    (hw : whole ≠ []) (hws : ∀ c ∈ whole, c.isDigit = true)
    (hfs : ∀ c ∈ fraction, c.isDigit = true) (hne : ds ≠ [])
    (hds : ∀ c ∈ ds, c.isDigit = true) :
    IsNumeral (whole ++ 'e' :: sign :: ds) ∧
      (fraction ≠ [] → IsNumeral (whole ++ '.' :: (fraction ++ 'e' :: sign :: ds))) := by
  have hascii : ∀ c ∈ 'e' :: sign :: ds, c.toNat < 0x80 := by
    intro c hc
    rw [List.mem_cons, List.mem_cons] at hc
    rcases hc with rfl | rfl | hc
    · decide
    · rcases hsign with rfl | rfl <;> decide
    · exact (isDigit_asciiByte (hds c hc)).2
  have hwascii : ∀ c ∈ whole, c.toNat < 0x80 := fun c hc ↦ (isDigit_asciiByte (hws c hc)).2
  have hexp := isExponent_map sign hsign hne hds
  refine ⟨⟨?_, ?_⟩, fun hf ↦ ⟨?_, ?_⟩⟩
  · exact List.forall_mem_append.mpr ⟨hwascii, hascii⟩
  · rw [List.map_append]
    exact .mk (by simpa using hw) (isDigit_map hws) (.exponent hexp)
  · refine List.forall_mem_append.mpr ⟨hwascii, List.forall_mem_cons.mpr ⟨by decide, ?_⟩⟩
    exact List.forall_mem_append.mpr ⟨fun c hc ↦ (isDigit_asciiByte (hfs c hc)).2, hascii⟩
  · rw [List.map_append, List.map_cons, List.map_append]
    exact .mk (by simpa using hw) (isDigit_map hws)
      (.fraction (by simpa using hf) (isDigit_map hfs) hexp)

/-- Digits with a point after the first, if there are further ones. -/
def pointed : List Char → List Char
  | d :: d' :: ds => d :: '.' :: d' :: ds
  | ds => ds

theorem isNumeral_pointed (sign : Char) (hsign : sign = '+' ∨ sign = '-') (hne : ds ≠ [])
    (hds : ∀ c ∈ ds, c.isDigit = true) (n : Nat) :
    IsNumeral (pointed ds ++ 'e' :: sign :: Nat.toDigits 10 n) := by
  have hexp : ∀ c ∈ Nat.toDigits 10 n, c.isDigit = true :=
    fun c hc ↦ Nat.isDigit_of_mem_toDigits (by decide) (by decide) hc
  cases ds with
  | nil => exact absurd rfl hne
  | cons d ds =>
    obtain ⟨hd, hds'⟩ := List.forall_mem_cons.mp hds
    have hnum := isNumeral_exponent sign hsign (List.cons_ne_nil d [])
      (List.forall_mem_singleton.mpr hd) hds' Nat.toDigits_ne_nil hexp
    cases ds with
    | nil => exact hnum.1
    | cons d' ds => exact hnum.2 (List.cons_ne_nil d' ds)

theorem isNumeral_layout (hne : ds ≠ []) (hds : ∀ c ∈ ds, c.isDigit = true) (e : Int) :
    IsNumeral (layout ds e) := by
  have hzeros (n : Nat) : ∀ c ∈ List.replicate n '0', c.isDigit = true := by
    intro c hc
    rw [List.eq_of_mem_replicate hc]
    decide
  have hzero : ∀ c ∈ ['0'], c.isDigit = true := List.forall_mem_singleton.mpr rfl
  rw [layout.eq_def]
  dsimp only
  split_ifs with hplain hneg hlen
  · -- A fraction below one.
    exact isNumeral_point (List.cons_ne_nil _ _) hzero (by simp [hne])
      (List.forall_mem_append.mpr ⟨hzeros _, hds⟩)
  · -- A whole number.
    exact isNumeral_point (by simp [hne]) (List.forall_mem_append.mpr ⟨hds, hzeros _⟩)
      (List.cons_ne_nil _ _) hzero
  · -- The point stands among the digits.
    refine isNumeral_point ?_ (fun c hc ↦ hds c (List.mem_of_mem_take hc)) ?_
      fun c hc ↦ hds c (List.mem_of_mem_drop hc)
    · simp [hne]
    · simpa using hlen
  · exact isNumeral_pointed '-' (.inr rfl) hne hds _
  · exact isNumeral_pointed '+' (.inl rfl) hne hds _

end Layout

/-- The bytes of a finite real number are a numeral behind a sign that may be missing. -/
theorem utf8_realText (x : Float) :
    ∃ bs, IsUnsigned bs ∧ (Text.utf8 (realText x) = bs ∨ Text.utf8 (realText x) = 0x2D :: bs) := by
  have hsigned {cs : List Char} (h : IsNumeral cs) :
      ∃ bs, IsUnsigned bs ∧
        (Text.utf8 (String.ofList ((if Decimal.isNegative x then ['-'] else []) ++ cs)) = bs ∨
          Text.utf8 (String.ofList ((if Decimal.isNegative x then ['-'] else []) ++ cs))
            = 0x2D :: bs) := by
    refine ⟨_, h.2, ?_⟩
    split_ifs
    · exact .inr (Text.utf8_ofList_ascii (List.forall_mem_cons.mpr ⟨by decide, h.1⟩))
    · exact .inl (Text.utf8_ofList_ascii h.1)
  rw [realText]
  dsimp only
  cases Decimal.Binary.ofFloat? x with
  | none =>
    have hzero : ∀ c ∈ ['0'], c.isDigit = true := List.forall_mem_singleton.mpr rfl
    exact hsigned (isNumeral_point (List.cons_ne_nil _ _) hzero (List.cons_ne_nil _ _) hzero)
  | some b =>
    exact hsigned (isNumeral_layout Nat.toDigits_ne_nil
      (fun c hc ↦ Nat.isDigit_of_mem_toDigits (by decide) (by decide) hc) _)

/-! ## Reals on the wire -/

/-- What a reader makes of a real number that has been written. -/
def relayReal (x : Float) : Option Float := (Shape.decode .real (writeReal x)).toOption

/-- A byte that begins a number makes the reader of reals read one. -/
theorem read_real_cons {b : UInt8} (hb : b = 0x2D ∨ isDigit b = true) (bs : Bytes) :
    Shape.read .real (b :: bs) = (do
      let (n, rest) ← readNumber (b :: bs)
      return (n.toReal, rest)) := by
  have hblank : isBlank b = false := by
    rcases hb with rfl | hd
    · decide
    · exact isBlank_of_isDigit hd
  rw [Shape.read, skipBlanks_cons hblank]
  simp only [hb, if_true]

theorem takes_read_real {bs : Bytes} (hbs : IsUnsigned bs) :
    Takes (Shape.read .real) bs ∧ Takes (Shape.read .real) (0x2D :: bs) := by
  obtain ⟨hplain, hsigned⟩ := readNumber_takes hbs
  obtain ⟨r, hr⟩ := hplain.map Number.toReal
  obtain ⟨r', hr'⟩ := hsigned.map Number.toReal
  obtain ⟨hne, hds, -⟩ := hbs
  rename_i ds t
  obtain ⟨d, ds', rfl⟩ := List.exists_cons_of_ne_nil hne
  have hd : isDigit d = true := hds d List.mem_cons_self
  refine ⟨⟨r, fun rest hrest ↦ ?_⟩, ⟨r', fun rest hrest ↦ ?_⟩⟩
  · exact (read_real_cons (.inr hd) _).trans (hr rest hrest)
  · exact (read_real_cons (.inl rfl) _).trans (hr' rest hrest)

/-- A number that is none is written as a word, and the word is refused. -/
theorem read_real_null (rest : Bytes) :
    Shape.read .real (Text.utf8 "null" ++ rest)
      = .error (.mismatch (.wrongType .null "f64")) := by
  rw [utf8_null, List.cons_append, Shape.read, skipBlanks_cons (by decide)]
  simp [isDigit, wrongType, Shape.wanted, readFound, readWord_append, bind, Except.bind, pure,
    Except.pure]

/-- NaN and the infinities do not arrive. -/
theorem relayReal_eq_none {x : Float} (hx : x.isFinite = false) : relayReal x = none := by
  have hread := read_real_null []
  rw [List.append_nil] at hread
  rw [relayReal, writeReal, hx, if_neg Bool.false_ne_true, Shape.decode, hread]
  rfl

theorem takes_writeReal (x : Float) : Takes (Shape.read .real) (writeReal x) := by
  rw [writeReal]
  split_ifs
  · obtain ⟨bs, hbs, htext | htext⟩ := utf8_realText x
    · rw [htext]
      exact (takes_read_real hbs).1
    · rw [htext]
      exact (takes_read_real hbs).2
  · exact .error fun rest _ ↦ read_real_null rest

/-- **Reals take their own place.** A written real number is read up to its end, and what comes out
does not depend on what follows it. -/
theorem read_writeReal (x : Float) {rest : Bytes} (hrest : EndsNumber rest) :
    (Shape.read .real (writeReal x ++ rest)).toOption = (relayReal x).map (·, rest) := by
  obtain ⟨r, hr⟩ := takes_writeReal x
  have hend : Shape.read .real (writeReal x) = r.map (·, []) := by
    simpa using hr [] (by simp [EndsNumber])
  rw [hr rest hrest, relayReal, Shape.decode, hend]
  cases r <;> rfl

end HeartbeatMesh.Wire
