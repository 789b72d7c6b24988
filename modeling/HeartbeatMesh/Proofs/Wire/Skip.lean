import HeartbeatMesh.Proofs.Wire.Grammar

/-!
# Values that nobody asked for are read past

Whatever stands in a field that its record does not declare, the reader is behind it afterwards, if
it is JSON: `skipValue_append`. The walk past a value keeps a stack of the brackets that are open
and gives up when it has taken a certain number of steps. So the statement about a value in the
middle of a walk (`IsJson.skipFrom`) is that the walk comes to the end of the value with the same
stack, after no more than two steps for each byte of it.
-/

namespace HeartbeatMesh.Wire

/-! ## Strings and numbers -/

theorem skipString_append {raw : Bytes} (h : IsStringBody raw) (rest : Bytes) :
    skipString (raw ++ 0x22 :: rest) = .ok rest := by
  induction h with
  | nil =>
    rw [List.nil_append, skipString.eq_def]
    rfl
  | plain hquote hbackslash hcontrol _ ih =>
    rw [skipString.eq_def]
    simp [hquote, hbackslash, hcontrol, ih]
  | escape he _ ih =>
    rw [skipString.eq_def]
    simp [ne_of_simpleEscape? he, he, ih]
  | unit hn _ ih =>
    rw [skipString.eq_def]
    simp [hn, ih]

section Numbers

variable {ds rest : Bytes}

theorem head?_append_isDigit (hne : ds ≠ []) (hds : ∀ d ∈ ds, isDigit d = true) :
    ((ds ++ rest).head?.map isDigit).getD false = true := by
  obtain ⟨d, ds', rfl⟩ := List.exists_cons_of_ne_nil hne
  exact hds d List.mem_cons_self

theorem skipDigits_append (hne : ds ≠ []) (hds : ∀ d ∈ ds, isDigit d = true)
    (hrest : ∀ b ∈ rest.head?, isDigit b = false) : skipDigits (ds ++ rest) = .ok rest := by
  rw [skipDigits, if_pos (head?_append_isDigit hne hds), dropWhile_isDigit_append hds hrest]

theorem skipExponent_append {e : Bytes} (he : IsExponent e) (hrest : EndsNumber rest) :
    skipExponent (e ++ rest) = .ok rest := by
  have hstop : ∀ b ∈ rest.head?, isDigit b = false := fun b hb ↦ (hrest b hb).1
  cases he with
  | none =>
    cases rest with
    | nil => rfl
    | cons b rest =>
      obtain ⟨-, -, h₁, h₂⟩ := hrest b rfl
      rw [List.nil_append, skipExponent.eq_def]
      exact if_neg (not_or.mpr ⟨h₁, h₂⟩)
  | @some letter sign ds hletter hsign hne hds =>
    have hdigits : skipDigits (ds ++ rest) = .ok rest := skipDigits_append hne hds hstop
    rw [List.cons_append, List.append_assoc, skipExponent.eq_def]
    refine (if_pos hletter).trans ?_
    rcases hsign with rfl | rfl | rfl
    · obtain ⟨d, ds', rfl⟩ := List.exists_cons_of_ne_nil hne
      have hd : isDigit d = true := hds d List.mem_cons_self
      have hsign : ¬(d = 0x2B ∨ d = 0x2D) := by
        rintro (rfl | rfl) <;> exact absurd hd (by decide)
      exact (if_neg hsign).trans hdigits
    · exact hdigits
    · exact hdigits

/-- What follows the digits before the point, as the walk goes past it. -/
theorem skipTail_append {t : Bytes} (ht : IsTail t) (hrest : EndsNumber rest) :
    (match t ++ rest with
      | 0x2E :: rest => skipDigits rest >>= skipExponent
      | rest => skipExponent rest) = .ok rest := by
  cases ht with
  | @fraction ds e hne hds he =>
    have hstop : ∀ b ∈ (e ++ rest).head?, isDigit b = false :=
      fun b hb ↦ (he.head?_append hrest b hb).1
    have hdigits : skipDigits (ds ++ e ++ rest) = .ok (e ++ rest) := by
      rw [List.append_assoc]
      exact skipDigits_append hne hds hstop
    exact (congrArg (· >>= skipExponent) hdigits).trans (skipExponent_append he hrest)
  | exponent he =>
    have hskip := skipExponent_append he hrest
    split
    · rename_i heq
      rw [heq] at hskip
      exact absurd rfl (he.head?_append hrest _ (by rw [heq]; rfl)).2
    · exact hskip

/-- A number without its sign. -/
theorem skipNumber_append {t : Bytes} (hne : ds ≠ []) (hds : ∀ d ∈ ds, isDigit d = true)
    (hzero : ds.head? = some 0x30 → ds = [0x30]) (ht : IsTail t) (hrest : EndsNumber rest) :
    skipNumber (ds ++ t ++ rest) = .ok rest := by
  have htail := skipTail_append ht hrest
  have hstop := ht.head?_append hrest
  rw [skipNumber.eq_def, List.append_assoc]
  by_cases hhead : ds.head? = some 0x30
  · have hnone : (((t ++ rest).head?.map isDigit).getD false) = false := by
      cases hb : (t ++ rest).head? with
      | none => rfl
      | some b => exact hstop b hb
    rw [hzero hhead, List.singleton_append]
    simp only [hnone]
    exact htail
  · obtain ⟨d, ds', rfl⟩ := List.exists_cons_of_ne_nil hne
    have hd : d ≠ 0x30 := fun h ↦ hhead (congrArg some h)
    have hdigits := skipDigits_append hne hds hstop
    rw [List.cons_append] at hdigits ⊢
    split
    · rename_i heq
      exact absurd (List.cons.inj heq).1 hd
    · rw [hdigits]
      exact htail

end Numbers

theorem skipScalar_number {bs : Bytes} (h : IsNumber bs) :
    ∃ b bs', bs = b :: bs' ∧ isBlank b = false ∧ b ≠ 0x5B ∧ b ≠ 0x7B ∧ b ≠ 0x5D ∧
      ∀ rest, EndsNumber rest → skipScalar b (bs' ++ rest) = .ok rest := by
  obtain ⟨hsign, hne, hds, hzero, ht⟩ := h
  rename_i sign ds t
  have hskip (rest : Bytes) (hrest : EndsNumber rest) :
      skipNumber (ds ++ t ++ rest) = .ok rest := skipNumber_append hne hds hzero ht hrest
  rcases hsign with rfl | rfl
  · obtain ⟨d, ds', rfl⟩ := List.exists_cons_of_ne_nil hne
    have hd : isDigit d = true := hds d List.mem_cons_self
    have hother {c : UInt8} (hc : isDigit c = false) : d ≠ c := by
      rintro rfl
      rw [hd] at hc
      cases hc
    refine ⟨d, ds' ++ t, rfl, isBlank_of_isDigit hd, hother (by decide), hother (by decide),
      hother (by decide), fun rest hrest ↦ ?_⟩
    rw [skipScalar, if_neg (hother (by decide)), if_neg (hother (by decide)),
      if_neg (hother (by decide)), if_neg (hother (by decide)), if_neg (hother (by decide)),
      if_pos hd]
    exact hskip rest hrest
  · exact ⟨0x2D, ds ++ t, rfl, by decide, by decide, by decide, by decide, hskip⟩

/-! ## Words, strings and brackets -/

section Walk

variable {fuel : Nat} {open_ : List Bracket}

theorem skipFrom_skipBlanks (bs : Bytes) :
    skipFrom fuel .value open_ (skipBlanks bs) = skipFrom fuel .value open_ bs := by
  cases fuel with
  | zero => rfl
  | succ fuel => rw [skipFrom, skipFrom, skipBlanks_skipBlanks]

theorem skipFrom_blanks {ws : Bytes} (hws : IsBlanks ws) (bs : Bytes) :
    skipFrom fuel .value open_ (ws ++ bs) = skipFrom fuel .value open_ bs := by
  rw [← skipFrom_skipBlanks, skipBlanks_append hws, skipFrom_skipBlanks]

/-- One step over a value that opens no bracket. -/
theorem skipFrom_scalar {b : UInt8} {bs rest : Bytes} (hblank : isBlank b = false)
    (hlist : b ≠ 0x5B) (hobject : b ≠ 0x7B) (h : skipScalar b bs = .ok rest) :
    skipFrom (fuel + 1) .value open_ (b :: bs) = skipFrom fuel .next open_ rest := by
  rw [skipFrom, skipBlanks_cons hblank]
  simp only [hlist, hobject, if_false, h]
  rfl

/-- One step into a bracket. -/
theorem skipFrom_opening (b : Bracket) (bs : Bytes) :
    skipFrom (fuel + 1) .value open_ (b.opening :: bs)
      = skipFrom fuel .first (b :: open_) bs := by
  cases b <;> rfl

/-- The end of an empty bracket. -/
theorem skipFrom_first_close (b : Bracket) {ws : Bytes} (hws : IsBlanks ws) (rest : Bytes) :
    skipFrom (fuel + 1) .first (b :: open_) (ws ++ b.close :: rest)
      = skipFrom fuel .next open_ rest := by
  rw [skipFrom, skipBlanks_append hws, skipBlanks_cons (by cases b <;> decide)]
  exact if_pos rfl

/-- The end of a bracket with elements. -/
theorem skipFrom_next_close (b : Bracket) {ws : Bytes} (hws : IsBlanks ws) (rest : Bytes) :
    skipFrom (fuel + 1) .next (b :: open_) (ws ++ b.close :: rest)
      = skipFrom fuel .next open_ rest := by
  rw [skipFrom, skipBlanks_append hws, skipBlanks_cons (by cases b <;> decide)]
  exact if_pos rfl

/-- From one element of a bracket to the next. -/
theorem skipFrom_next_comma (b : Bracket) {ws : Bytes} (hws : IsBlanks ws) (rest : Bytes) :
    skipFrom (fuel + 1) .next (b :: open_) (ws ++ 0x2C :: rest)
      = skipToElement b rest >>= skipFrom fuel .value (b :: open_) := by
  rw [skipFrom, skipBlanks_append hws, skipBlanks_cons (by decide)]
  cases b <;> rfl

theorem skipToElement_skipBlanks (b : Bracket) (bs : Bytes) :
    (skipToElement b (skipBlanks bs) >>= skipFrom fuel .value open_)
      = skipToElement b bs >>= skipFrom fuel .value open_ := by
  cases b with
  | list => exact skipFrom_skipBlanks bs
  | object =>
    rw [skipToElement, skipToElement, skipKey, skipKey, readMark, readMark, skipBlanks_skipBlanks]

/-- What stands before the value of an element is read past. -/
theorem skipToElement_append {b : Bracket} {label : Bytes} (h : IsLabel b label) (bs : Bytes) :
    (skipToElement b (label ++ bs) >>= skipFrom fuel .value open_)
      = skipFrom fuel .value open_ bs := by
  cases h with
  | list hws => exact skipFrom_blanks hws bs
  | @object ws raw ws' ws'' hws hraw hws' hws'' =>
    have hkey : skipKey (ws ++ 0x22 :: (raw ++ 0x22 :: (ws' ++ 0x3A :: ws'')) ++ bs)
        = .ok (ws'' ++ bs) := by
      rw [skipKey, List.append_assoc, readMark_append hws, List.cons_append,
        readMark_cons (by decide)]
      simp only [bind, Except.bind, List.append_assoc, List.cons_append]
      rw [skipString_append hraw]
      simp only
      rw [readMark_append hws', readMark_cons (by decide)]
    rw [skipToElement, hkey]
    exact skipFrom_blanks hws'' bs

end Walk

/-! ## Values -/

/-- A value begins with a byte that neither is blank nor closes a list. -/
theorem IsJson.exists_cons {bs : Bytes} (h : IsJson bs) :
    ∃ b bs', bs = b :: bs' ∧ isBlank b = false ∧ b ≠ 0x5D := by
  cases h with
  | null => exact ⟨_, _, utf8_null, by decide, by decide⟩
  | flag b =>
    cases b with
    | true => exact ⟨_, _, utf8_true, by decide, by decide⟩
    | false => exact ⟨_, _, utf8_false, by decide, by decide⟩
  | number hbs =>
    obtain ⟨b, bs', hbs', hblank, -, -, hclose, -⟩ := skipScalar_number hbs
    exact ⟨b, bs', hbs', hblank, hclose⟩
  | string => exact ⟨_, _, rfl, by decide, by decide⟩
  | empty b => exact ⟨_, _, rfl, by cases b <;> decide, by cases b <;> decide⟩
  | elements b => exact ⟨_, _, rfl, by cases b <;> decide, by cases b <;> decide⟩

/-- The first element of a bracket is not mistaken for its end. -/
theorem IsElements.skipBlanks_append {b : Bracket} {bs : Bytes} (h : IsElements b bs)
    (rest : Bytes) : ∃ c bs', skipBlanks (bs ++ rest) = c :: bs' ∧ c ≠ b.close := by
  have helement {label value : Bytes} (hlabel : IsLabel b label) (hvalue : IsJson value)
      (tail : Bytes) : ∃ c bs', skipBlanks (label ++ (value ++ tail)) = c :: bs' ∧ c ≠ b.close := by
    cases hlabel with
    | list hws =>
      obtain ⟨c, value', rfl, hblank, hclose⟩ := hvalue.exists_cons
      rw [Wire.skipBlanks_append hws, List.cons_append, skipBlanks_cons hblank]
      exact ⟨c, _, rfl, hclose⟩
    | object hws =>
      rw [List.append_assoc, Wire.skipBlanks_append hws, List.cons_append,
        skipBlanks_cons (by decide)]
      exact ⟨_, _, rfl, by decide⟩
  cases h with
  | last hlabel hvalue =>
    rw [List.append_assoc, List.append_assoc]
    exact helement hlabel hvalue _
  | cons hlabel hvalue =>
    rw [List.append_assoc, List.append_assoc]
    exact helement hlabel hvalue _

theorem endsNumber_close (b : Bracket) (rest : Bytes) : EndsNumber (b.close :: rest) := by
  intro c hc
  obtain rfl : b.close = c := Option.some.inj hc
  cases b <;> decide

theorem endsNumber_comma (rest : Bytes) : EndsNumber (0x2C :: rest) := by
  intro c hc
  obtain rfl : 0x2C = c := Option.some.inj hc
  decide

/-- Into the first element of a bracket. -/
theorem IsElements.skipFrom_first {b : Bracket} {bs : Bytes} (h : IsElements b bs) (fuel : Nat)
    (open_ : List Bracket) (rest : Bytes) :
    skipFrom (fuel + 1) .first (b :: open_) (bs ++ rest)
      = skipToElement b (bs ++ rest) >>= skipFrom fuel .value (b :: open_) := by
  obtain ⟨c, bs', hbs', hclose⟩ := h.skipBlanks_append rest
  rw [← skipToElement_skipBlanks, hbs', skipFrom, hbs']
  exact if_neg hclose

mutual
/-- **A value is read past** in at most two steps for each of its bytes. -/
theorem IsJson.skipFrom {bs : Bytes} : IsJson bs → ∃ n ≤ 2 * bs.length,
    ∀ fuel open_ rest, EndsNumber rest →
      Wire.skipFrom (fuel + n) .value open_ (bs ++ rest) = Wire.skipFrom fuel .next open_ rest
  | .null => by
    rw [utf8_null]
    refine ⟨1, ?_, fun fuel open_ rest _ ↦ ?_⟩
    · rw [List.length_cons]
      omega
    · exact skipFrom_scalar (by decide) (by decide) (by decide) (readWord_append _ rest)
  | .flag true => by
    rw [cond_true, utf8_true]
    refine ⟨1, ?_, fun fuel open_ rest _ ↦ ?_⟩
    · rw [List.length_cons]
      omega
    · exact skipFrom_scalar (by decide) (by decide) (by decide) (readWord_append _ rest)
  | .flag false => by
    rw [cond_false, utf8_false]
    refine ⟨1, ?_, fun fuel open_ rest _ ↦ ?_⟩
    · rw [List.length_cons]
      omega
    · exact skipFrom_scalar (by decide) (by decide) (by decide) (readWord_append _ rest)
  | .number hbs => by
    obtain ⟨b, bs', rfl, hblank, hlist, hobject, -, hskip⟩ := skipScalar_number hbs
    refine ⟨1, ?_, fun fuel open_ rest hrest ↦ ?_⟩
    · rw [List.length_cons]
      omega
    · exact skipFrom_scalar hblank hlist hobject (hskip rest hrest)
  | .string hraw => by
    refine ⟨1, ?_, fun fuel open_ rest _ ↦ ?_⟩
    · rw [List.length_cons]
      omega
    · rw [List.cons_append, List.append_assoc]
      exact skipFrom_scalar (by decide) (by decide) (by decide) (skipString_append hraw rest)
  | .empty b hws => by
    refine ⟨2, ?_, fun fuel open_ rest _ ↦ ?_⟩
    · rw [List.length_cons]
      omega
    · rw [List.cons_append, List.append_assoc]
      exact (skipFrom_opening b _).trans (skipFrom_first_close b hws rest)
  | .elements b hbs => by
    obtain ⟨n, hn, hskip⟩ := hbs.skipFrom
    refine ⟨n + 2, ?_, fun fuel open_ rest _ ↦ ?_⟩
    · rw [List.length_cons, List.length_append, List.length_singleton]
      omega
    · rw [List.cons_append, List.append_assoc, ← Nat.add_assoc, skipFrom_opening,
        hbs.skipFrom_first]
      exact hskip fuel open_ rest
/-- The elements of a bracket are read past, and its end. -/
theorem IsElements.skipFrom {b : Bracket} {bs : Bytes} : IsElements b bs →
    ∃ n ≤ 2 * bs.length + 1, ∀ fuel open_ rest,
      (skipToElement b (bs ++ b.close :: rest) >>= Wire.skipFrom (fuel + n) .value (b :: open_))
        = Wire.skipFrom fuel .next open_ rest
  | .last hlabel hvalue hws => by
    obtain ⟨n, hn, hskip⟩ := hvalue.skipFrom
    refine ⟨n + 1, ?_, fun fuel open_ rest ↦ ?_⟩
    · simp only [List.length_append]
      omega
    · rw [List.append_assoc, List.append_assoc, skipToElement_append hlabel, Nat.add_comm n,
        ← Nat.add_assoc, hskip _ _ _ (.blanks_append hws (endsNumber_close b rest))]
      exact skipFrom_next_close b hws rest
  | .cons hlabel hvalue hws hrest => by
    obtain ⟨n, hn, hskip⟩ := hvalue.skipFrom
    obtain ⟨m, hm, hskip'⟩ := hrest.skipFrom
    refine ⟨m + 1 + n, ?_, fun fuel open_ rest ↦ ?_⟩
    · simp only [List.length_append, List.length_cons]
      omega
    · rw [List.append_assoc, List.append_assoc, List.append_assoc, List.cons_append,
        skipToElement_append hlabel, ← Nat.add_assoc,
        hskip _ _ _ (.blanks_append hws (endsNumber_comma _)), ← Nat.add_assoc,
        skipFrom_next_comma b hws]
      exact hskip' fuel open_ rest
end

/-- **Nothing is left of a value that is read past**, and nothing else is taken. -/
theorem skipValue_append {ws bs rest : Bytes} (hws : IsBlanks ws) (h : IsJson bs)
    (hrest : EndsNumber rest) : skipValue (ws ++ (bs ++ rest)) = .ok rest := by
  obtain ⟨n, hn, hskip⟩ := h.skipFrom
  obtain ⟨fuel, hfuel⟩ : ∃ fuel, 2 * (ws ++ (bs ++ rest)).length + 2 = fuel + 1 + n := by
    refine ⟨2 * (ws ++ (bs ++ rest)).length + 1 - n, ?_⟩
    simp only [List.length_append]
    omega
  rw [skipValue, hfuel, skipFrom_blanks hws, hskip _ _ _ hrest]
  rfl

end HeartbeatMesh.Wire
