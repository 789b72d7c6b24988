import HeartbeatMesh.Decimal.Shortest
import HeartbeatMesh.Proofs.Time
import Mathlib

/-!
# Positive doubles

A positive finite double is a mantissa times a power of two. The mantissa has 53 bits, and the
leading one is set unless the exponent is the least one (`IsCanonical`), so each number is written
in one way only and doubles compare as their exponents and mantissas do (`IsPositive.lt_iff`).

The bits of a double hold these two numbers. Whoever takes them apart finds the same two
(`unpack_eq_finite`, `IsPositive.ofFloat?`), and what is packed into bits is found in them again
(`unpack_pack`). Twice a double is exact as long as its exponent leaves room (`IsPositive.mul_two`).
-/

namespace HeartbeatMesh

open Float.Model Float.Model.UnpackedFloat

/-! ## The fields of a double -/

/-- The mantissa and the exponent of a finite double that is not zero. -/
structure IsCanonical (m : ℕ) (e : ℤ) : Prop where
  pos : 0 < m
  lt : m < 2 ^ 53
  min_le : -1074 ≤ e
  le_max : e ≤ 971
  normal : 2 ^ 52 ≤ m ∨ e = -1074

section

variable {m : ℕ} {e : ℤ} {v : BitVec 11} {w : BitVec 52}

theorem toNat_unpackMantissa (b : BitVec Format.binary64.numBits) :
    (unpackMantissa b).toNat = b.toNat % 2 ^ 52 := by
  simp [unpackMantissa, BitVec.extractLsb_toNat]

theorem toNat_unpackExponent (b : BitVec Format.binary64.numBits) :
    (unpackExponent b).toNat = b.toNat / 2 ^ 52 % 2 ^ 11 := by
  simp [unpackExponent, BitVec.extractLsb_toNat, Nat.shiftRight_eq_div_pow]

theorem toNat_one_append (w : BitVec 52) : (1#1 ++ w).toNat = 2 ^ 52 + w.toNat := by
  rw [BitVec.toNat_append, ← Nat.shiftLeft_add_eq_or_of_lt w.isLt]
  rfl

/-- What the bits of a finite number hold, unless it is zero. -/
theorem unpack_eq_finite {b : BitVec Format.binary64.numBits} {s : Sign} {hm : 0 < m}
    (hb : UnpackedFloat.unpack .binary64 b = .finite s m e hm) :
    (b.toNat / 2 ^ 52 % 2 ^ 11 = 0 ∧ m = b.toNat % 2 ^ 52 ∧ e = -1074) ∨
      (0 < b.toNat / 2 ^ 52 % 2 ^ 11 ∧ b.toNat / 2 ^ 52 % 2 ^ 11 < 2047 ∧
        m = 2 ^ 52 + b.toNat % 2 ^ 52 ∧ e = (b.toNat / 2 ^ 52 % 2 ^ 11 : ℕ) - 1075) := by
  have hmantissa := toNat_unpackMantissa b
  have hexponent := toNat_unpackExponent b
  rw [UnpackedFloat.unpack] at hb
  dsimp only at hb
  split_ifs at hb with hall _ hzero
  · -- The exponent is the least one.
    injection hb with _ hm' he
    rw [hzero] at hexponent he
    refine .inl ⟨hexponent.symm, hm'.symm.trans hmantissa, ?_⟩
    rw [← he]
    rfl
  · injection hb with _ hm' he
    have hbias : Format.binary64.exponentBias = 1023 := rfl
    rw [toNat_one_append, hmantissa] at hm'
    rw [hexponent, hbias] at he
    rw [← BitVec.toNat_inj, hexponent] at hall hzero
    change ¬b.toNat / 2 ^ 52 % 2 ^ 11 = 2047 at hall
    change ¬b.toNat / 2 ^ 52 % 2 ^ 11 = 0 at hzero
    refine .inr ⟨by omega, by omega, hm'.symm, ?_⟩
    rw [← he]
    push_cast
    ring

theorem unpack_packComponents_normal (hv : 0 < v.toNat) (hv' : v.toNat < 2047)
    (hm : 0 < 2 ^ 52 + w.toNat) :
    UnpackedFloat.unpack .binary64 (packComponents .binary64 .positive v w)
      = .finite .positive (2 ^ 52 + w.toNat) (v.toNat - 1075) hm := by
  have hall : v ≠ -1#11 := by
    rintro rfl
    exact absurd hv' (by decide)
  have hzero : v ≠ 0#11 := by
    rintro rfl
    exact absurd hv (by decide)
  rw [UnpackedFloat.unpack]
  dsimp only
  rw [if_neg, if_neg]
  · refine (UnpackedFloat.finite.injEq ..).mpr ⟨?_, ?_, ?_⟩
    · rw [unpackSign_packComponents, Sign.ofBitVec_toBitVec]
    · rw [toNat_one_append, unpackMantissa_packComponents]
    · have hbias : Format.binary64.exponentBias = 1023 := rfl
      rw [unpackExponent_packComponents, hbias]
      push_cast
      ring
  · rwa [unpackExponent_packComponents]
  · rwa [unpackExponent_packComponents]

theorem unpack_packComponents_subnormal (hw : 0 < w.toNat) :
    UnpackedFloat.unpack .binary64 (packComponents .binary64 .positive 0#11 w)
      = .finite .positive w.toNat (-1074) hw := by
  have hzero : w ≠ 0#52 := by
    rintro rfl
    exact absurd hw (by decide)
  rw [UnpackedFloat.unpack]
  dsimp only
  rw [if_neg, if_pos, dif_neg]
  · refine (UnpackedFloat.finite.injEq ..).mpr ⟨?_, ?_, ?_⟩
    · rw [unpackSign_packComponents, Sign.ofBitVec_toBitVec]
    · rw [unpackMantissa_packComponents]
    · rw [unpackExponent_packComponents]
      rfl
  · rwa [unpackMantissa_packComponents]
  · rw [unpackExponent_packComponents]
  · rw [unpackExponent_packComponents]
    decide

/-- What is packed into the bits of a double is found in them again. -/
theorem unpack_pack (hm : 0 < m) (hc : IsCanonical m e) :
    (Float.Model.pack (.finite .positive m e hm)).unpack = .finite .positive m e hm := by
  obtain ⟨-, hlt, hmin, hmax, hnormal⟩ := hc
  obtain ⟨k, hk⟩ : ∃ k : ℕ, e + 1075 = k := ⟨(e + 1075).toNat, by omega⟩
  have hbiased : (e + (Format.binary64.exponentBias : ℕ)
      + (Format.binary64.mantissaBitsWithoutImplicit : ℕ)).toNat = k := by
    change (e + (1023 : ℕ) + (52 : ℕ)).toNat = k
    omega
  have hv : (BitVec.ofNat 11 k).toNat = k := by
    rw [BitVec.toNat_ofNat]
    omega
  change UnpackedFloat.unpack .binary64 (UnpackedFloat.pack .binary64 _) = _
  rw [UnpackedFloat.pack]
  dsimp only
  rw [hbiased, if_neg (by change ¬2048 ≤ k + 1; omega)]
  by_cases hbig : 2 ^ 52 ≤ m
  · have hw : (BitVec.ofNat 52 m).toNat = m - 2 ^ 52 := by
      rw [BitVec.toNat_ofNat]
      omega
    have hlog : m.log2 = 52 := (Nat.log2_eq_iff hm.ne').mpr ⟨hbig, hlt⟩
    rw [if_pos (by rw [hlog]; rfl)]
    refine (unpack_packComponents_normal (by omega) (by omega) (by omega)).trans ?_
    refine (UnpackedFloat.finite.injEq ..).mpr ⟨rfl, ?_, ?_⟩ <;> omega
  · have hw : (BitVec.ofNat 52 m).toNat = m := by
      rw [BitVec.toNat_ofNat]
      omega
    have hlog : m.log2 < 52 := (Nat.log2_lt hm.ne').mpr (by omega)
    rw [if_neg (by change ¬m.log2 + 1 = 53; omega)]
    refine (unpack_packComponents_subnormal (by omega)).trans ?_
    refine (UnpackedFloat.finite.injEq ..).mpr ⟨rfl, ?_, ?_⟩ <;> omega

end

/-! ## Positive numbers -/

/-- The double is the positive number `m * 2 ^ e`. -/
structure IsPositive (x : Float) (m : ℕ) (e : ℤ) : Prop where
  canonical : IsCanonical m e
  unpack : x.toModel.unpack = .finite .positive m e canonical.pos

section

variable {x y : Float} {m m' : ℕ} {e e' : ℤ}

theorem isCanonical_of_unpack {s : Sign} {hm : 0 < m} (hx : x.toModel.unpack = .finite s m e hm) :
    IsCanonical m e := by
  have hfields := unpack_eq_finite hx
  generalize x.toModel.toBits.toBitVec.toNat = bits at hfields
  rcases hfields with ⟨-, hm', he⟩ | ⟨hmin, hmax, hm', he⟩
  · exact ⟨hm, by omega, by omega, by omega, .inr he⟩
  · exact ⟨hm, by omega, by omega, by omega, .inl (by omega)⟩

theorem exists_isPositive (hpos : 0.0 < x) (hfinite : x.isFinite = true) :
    ∃ m e, IsPositive x m e := by
  have hzero : (0.0 : Float).toModel.unpack = .zero .positive := by rfl
  have hfinite' : x.toModel.unpack.isFinite = true := hfinite
  rw [lt_iff_compare, hzero] at hpos
  cases hx : x.toModel.unpack with
  | infinity | notANumber =>
    rw [hx] at hfinite'
    cases hfinite'
  | zero =>
    rw [hx] at hpos
    simp [UnpackedFloat.compare] at hpos
  | finite s m e hm =>
    rw [hx] at hpos
    cases s with
    | negative => simp [UnpackedFloat.compare] at hpos
    | positive => exact ⟨m, e, isCanonical_of_unpack hx, hx⟩

theorem IsPositive.isFinite (hx : IsPositive x m e) : x.isFinite = true := by
  change x.toModel.unpack.isFinite = true
  rw [hx.unpack]
  rfl

theorem IsPositive.timeRank_eq (hx : IsPositive x m e) :
    timeRank x = toLex (1, toLex (e, (m : ℤ))) := by
  rw [timeRank, hx.unpack]
  rfl

/-- Positive numbers compare by exponent and mantissa. -/
theorem IsPositive.lt_iff (hx : IsPositive x m e) (hy : IsPositive y m' e') :
    x < y ↔ e < e' ∨ e = e' ∧ m < m' := by
  rw [lt_iff_timeRank_lt hx.isFinite hy.isFinite, hx.timeRank_eq, hy.timeRank_eq]
  simp [Prod.Lex.toLex_lt_toLex]

theorem IsPositive.le_iff (hx : IsPositive x m e) (hy : IsPositive y m' e') :
    x ≤ y ↔ e < e' ∨ e = e' ∧ m ≤ m' := by
  rw [le_iff_timeRank_le hx.isFinite hy.isFinite, hx.timeRank_eq, hy.timeRank_eq]
  simp [Prod.Lex.toLex_le_toLex]

theorem isFinite_zero : (0.0 : Float).isFinite = true := by rfl

theorem IsPositive.pos (hx : IsPositive x m e) : 0.0 < x := by
  rw [lt_iff_timeRank_lt isFinite_zero hx.isFinite, hx.timeRank_eq]
  exact Prod.Lex.toLex_lt_toLex.mpr (.inl Int.zero_lt_one)

/-- What is not less than a positive number is positive. -/
theorem IsPositive.exists_of_le (hx : IsPositive x m e) (hy : y.isFinite = true) (hxy : x ≤ y) :
    ∃ m' e', IsPositive y m' e' := by
  refine exists_isPositive ?_ hy
  have hpos := hx.pos
  rw [lt_iff_timeRank_lt isFinite_zero hx.isFinite] at hpos
  rw [le_iff_timeRank_le hx.isFinite hy] at hxy
  rw [lt_iff_timeRank_lt isFinite_zero hy]
  exact hpos.trans_le hxy

/-- The magnitude of a positive number. -/
theorem IsPositive.ofFloat? (hx : IsPositive x m e) :
    ∃ narrow, Decimal.Binary.ofFloat? x = some ⟨m, e, narrow⟩ := by
  obtain ⟨bits, hbits⟩ : ∃ n, x.toBits.toNat = n := ⟨_, rfl⟩
  have hpos := hx.canonical.pos
  have hfields := unpack_eq_finite hx.unpack
  rw [show x.toModel.toBits.toBitVec.toNat = bits from hbits] at hfields
  have hfraction : bits % (1 <<< 63) % (1 <<< 52) = bits % 2 ^ 52 := by
    rw [Nat.one_shiftLeft, Nat.one_shiftLeft]
    omega
  have hexponent : bits % (1 <<< 63) / (1 <<< 52) = bits / 2 ^ 52 % 2 ^ 11 := by
    rw [Nat.one_shiftLeft, Nat.one_shiftLeft]
    omega
  rw [Decimal.Binary.ofFloat?]
  simp only [hbits, hfraction, hexponent]
  rcases hfields with ⟨hzero, hm, rfl⟩ | ⟨hnormal, hlt, rfl, rfl⟩
  · rw [← hm, if_neg (by omega), if_pos hzero, if_neg (by omega)]
    exact ⟨false, rfl⟩
  · rw [if_neg (by omega), if_neg (by omega)]
    exact ⟨_, rfl⟩

end

/-! ## Twice a number -/

section

variable {m : ℕ} {e : ℤ}

theorem log2_mul_two_pow (hm : 0 < m) (n : ℕ) : (m * 2 ^ n).log2 = m.log2 + n := by
  have hpow : 0 < 2 ^ n := Nat.two_pow_pos n
  refine (Nat.log2_eq_iff (Nat.mul_pos hm hpow).ne').mpr ⟨?_, ?_⟩
  · rw [pow_add]
    exact Nat.mul_le_mul_right _ (Nat.log2_self_le hm.ne')
  · rw [show m.log2 + n + 1 = m.log2 + 1 + n by omega, pow_add]
    exact Nat.mul_lt_mul_of_pos_right Nat.lt_log2_self hpow

/-- The exponent of a double is the one that rounding gives its number, however it is written. -/
theorem IsCanonical.targetExponent_eq (hc : IsCanonical m e) (n : ℕ) :
    Format.binary64.targetExponent (totalExponent (m * 2 ^ n) (e - n)) = e := by
  obtain ⟨hpos, hlt, hmin, -, hnormal⟩ := hc
  have hlog : m.log2 < 53 := (Nat.log2_lt hpos.ne').mpr hlt
  have hlog' : 2 ^ 52 ≤ m → 52 ≤ m.log2 := (Nat.le_log2 hpos.ne').mpr
  rw [totalExponent, log2_mul_two_pow hpos, Format.targetExponent]
  change max ((m.log2 + n : ℕ) + 1 + (e - n) - (53 : ℕ)) (-1074 : ℤ) = e
  push_cast
  omega

/-- Exact zeros behind a mantissa are shifted out without a trace. -/
theorem shiftRight_exact (m n : ℕ) :
    (⟨m * 2 ^ n, false, false⟩ : ExtendedMantissa) >>> n = ⟨m, false, false⟩ := by
  change n.repeat ExtendedMantissa.shiftRightOne _ = _
  induction n generalizing m with
  | zero => rw [pow_zero, mul_one]; rfl
  | succ n ih =>
    rw [Nat.repeat, pow_succ, ← mul_assoc, mul_right_comm, ih (m * 2)]
    simp [ExtendedMantissa.shiftRightOne]

theorem IsCanonical.shiftToTargetExponent_eq (hc : IsCanonical m e) (n : ℕ) :
    shiftToTargetExponent .binary64 (m * 2 ^ n) (e - n) .exact = (⟨m, false, false⟩, e) := by
  rw [shiftToTargetExponent, hc.targetExponent_eq n, shiftToExponent]
  have hshift : (e - (e - n)).toNat = n := by omega
  rw [hshift, ExtendedMantissa.ofMantissaAndAccuracy, shiftRight_exact]
  refine Prod.ext rfl ?_
  change e - n + n = e
  omega

/-- A number that a double can hold is not rounded. -/
theorem IsCanonical.roundWithAccuracy_eq (hc : IsCanonical m e) (s : Sign) (n : ℕ) :
    roundWithAccuracy .binary64 s (m * 2 ^ n) (e - n) .exact = .finite s m e hc.pos := by
  have hagain := hc.shiftToTargetExponent_eq 0
  rw [pow_zero, mul_one, Nat.cast_zero, sub_zero] at hagain
  rw [roundWithAccuracy]
  simp only [hc.shiftToTargetExponent_eq n, ExtendedMantissa.roundedMantissa,
    ExtendedMantissa.accuracy, Accuracy.roundToNearestEven, hagain]
  rw [dif_neg hc.pos.ne']

variable {x : Float}

/-- Twice a number is a number of the next exponent, or of twice the mantissa if there is room for
it. -/
theorem IsPositive.mul_two (hx : IsPositive x m e) (he : e ≤ 970) :
    (2 ^ 52 ≤ m ∧ IsPositive (x * 2.0) m (e + 1)) ∨
      (m < 2 ^ 52 ∧ e = -1074 ∧ IsPositive (x * 2.0) (2 * m) e) := by
  have htwo : (2.0 : Float).toModel.unpack = .finite .positive (2 ^ 52) (-51) (by decide) := by
    rfl
  have hmul : (x * 2.0).toModel.unpack = (Float.Model.pack
      (roundWithAccuracy .binary64 .positive (m * 2 ^ 52) (e + -51) .exact)).unpack := by
    change (Float.Model.pack (UnpackedFloat.mul .binary64 x.toModel.unpack
      (2.0 : Float).toModel.unpack)).unpack = _
    rw [hx.unpack, htwo]
    rfl
  obtain ⟨hpos, hlt, hmin, -, hnormal⟩ := hx.canonical
  by_cases hbig : 2 ^ 52 ≤ m
  · have hc : IsCanonical m (e + 1) := ⟨hpos, hlt, by omega, by omega, .inl hbig⟩
    refine .inl ⟨hbig, hc, ?_⟩
    rw [hmul, show e + -51 = e + 1 - (52 : ℕ) by omega, hc.roundWithAccuracy_eq, unpack_pack _ hc]
  · obtain rfl : e = -1074 := hnormal.resolve_left hbig
    have hc : IsCanonical (2 * m) (-1074) :=
      ⟨by omega, by omega, le_refl _, by omega, .inr rfl⟩
    refine .inr ⟨by omega, rfl, hc, ?_⟩
    rw [hmul, show m * 2 ^ 52 = 2 * m * 2 ^ 51 by ring,
      show (-1074 : ℤ) + -51 = -1074 - (51 : ℕ) by omega, hc.roundWithAccuracy_eq, unpack_pack _ hc]

end

end HeartbeatMesh
