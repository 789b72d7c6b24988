import HeartbeatMesh.Duration
import HeartbeatMesh.Proofs.Double

/-!
# Seconds and nanoseconds

The longer of two times has at least as many nanoseconds (`ofSeconds_le_ofSeconds`). A positive
double is a fraction, the greater of two doubles is the greater fraction, and rounding fractions to
whole numbers keeps their order (`roundDiv_le_roundDiv`).
-/

namespace HeartbeatMesh

/-! ## Rounding -/

section

variable {num den num' den' : ℕ}

/-- A fraction is rounded to at most `k` if it is less than half above `k`, or just a half and `k`
is even. -/
theorem roundDiv_le_iff (hden : 0 < den) (k : ℕ) :
    roundDiv num den ≤ k ↔
      2 * num < (2 * k + 1) * den ∨ 2 * num = (2 * k + 1) * den ∧ k % 2 = 0 := by
  obtain ⟨q, hq⟩ : ∃ q, num / den = q := ⟨_, rfl⟩
  obtain ⟨r, hr⟩ : ∃ r, num % den = r := ⟨_, rfl⟩
  have hnum : num = q * den + r := by rw [← hq, ← hr, Nat.div_add_mod']
  have hlt : r < den := hr ▸ Nat.mod_lt num hden
  rw [roundDiv]
  simp only [hq, hr]
  rcases lt_trichotomy k q with hk | rfl | hk
  · -- Even the quotient without its remainder is too large.
    have hmul : (2 * k + 2) * den ≤ 2 * q * den := Nat.mul_le_mul_right _ (by omega)
    have hsplit : (2 * k + 2) * den = (2 * k + 1) * den + den := by ring
    have htwice : 2 * num = 2 * q * den + 2 * r := by rw [hnum]; ring
    split_ifs <;> omega
  · have hsplit : (2 * k + 1) * den = 2 * (k * den) + den := by ring
    split_ifs <;> omega
  · have hmul : (2 * q + 3) * den ≤ (2 * k + 1) * den := Nat.mul_le_mul_right _ (by omega)
    have hsplit : (2 * q + 3) * den = 2 * (q * den) + 3 * den := by ring
    split_ifs <;> omega

/-- Rounding keeps the order of fractions. -/
theorem roundDiv_le_roundDiv (hden : 0 < den) (hden' : 0 < den')
    (h : num * den' ≤ num' * den) : roundDiv num den ≤ roundDiv num' den' := by
  obtain ⟨k, hk⟩ : ∃ k, roundDiv num' den' = k := ⟨_, rfl⟩
  have hcross : 2 * num * den' ≤ 2 * num' * den := by
    rw [mul_assoc, mul_assoc]
    exact Nat.mul_le_mul_left 2 h
  have hcomm : (2 * k + 1) * den' * den = (2 * k + 1) * den * den' := by ring
  rw [hk, roundDiv_le_iff hden]
  rcases (roundDiv_le_iff hden' k).mp hk.le with hlt | ⟨heq, heven⟩
  · left
    have hlt' : 2 * num * den' < (2 * k + 1) * den * den' := calc
      2 * num * den' ≤ 2 * num' * den := hcross
      _ < (2 * k + 1) * den' * den := Nat.mul_lt_mul_of_pos_right hlt hden
      _ = (2 * k + 1) * den * den' := hcomm
    exact lt_of_mul_lt_mul_right hlt' (Nat.zero_le _)
  · rw [heq, hcomm] at hcross
    rcases (le_of_mul_le_mul_right hcross hden').lt_or_eq with hlt' | heq'
    · exact .inl hlt'
    · exact .inr ⟨heq', heven⟩

end

/-! ## Seconds -/

section

variable {x y : Float} {m m' : ℕ} {e e' : ℤ}

/-- The numerator and the denominator of a positive double. -/
theorem IsPositive.ofSeconds_eq (hx : IsPositive x m e) :
    Nanoseconds.ofSeconds x
      = roundDiv (m * Nanoseconds.perSecond * 2 ^ e.toNat) (2 ^ (-e).toNat) := by
  obtain ⟨narrow, hparts⟩ := hx.ofFloat?
  rw [Nanoseconds.ofSeconds, hparts]
  dsimp only
  rw [Nat.shiftLeft_eq, Nat.one_shiftLeft]

/-- The greater of two positive doubles is the greater fraction. -/
theorem IsPositive.cross_le (hx : IsPositive x m e) (hy : IsPositive y m' e') (hxy : x ≤ y) :
    m * 2 ^ e.toNat * 2 ^ (-e').toNat ≤ m' * 2 ^ e'.toNat * 2 ^ (-e).toNat := by
  rcases (hx.le_iff hy).mp hxy with hlt | ⟨rfl, hle⟩
  · -- The greater exponent makes up for a mantissa of half the size.
    obtain ⟨k, hk⟩ : ∃ k : ℕ, e'.toNat + (-e).toNat = e.toNat + (-e').toNat + (k + 1) :=
      ⟨(e' - e).toNat - 1, by omega⟩
    have hmantissa : m ≤ m' * 2 ^ (k + 1) := calc
      m ≤ m' * 2 := by
        have hnormal := hy.canonical.normal.resolve_right
          (by have := hx.canonical.min_le; omega)
        have := hx.canonical.lt
        omega
      _ ≤ m' * 2 ^ (k + 1) :=
        Nat.mul_le_mul_left m' (Nat.le_self_pow (Nat.succ_ne_zero k) 2)
    calc
      m * 2 ^ e.toNat * 2 ^ (-e').toNat = m * 2 ^ (e.toNat + (-e').toNat) := by
        rw [pow_add, mul_assoc]
      _ ≤ m' * 2 ^ (k + 1) * 2 ^ (e.toNat + (-e').toNat) := Nat.mul_le_mul_right _ hmantissa
      _ = m' * 2 ^ e'.toNat * 2 ^ (-e).toNat := by
        rw [mul_assoc, ← pow_add, mul_assoc, ← pow_add, hk, add_comm (k + 1)]
  · exact Nat.mul_le_mul_right _ (Nat.mul_le_mul_right _ hle)

/-- The longer of two times has at least as many nanoseconds. -/
theorem IsPositive.ofSeconds_le_ofSeconds (hx : IsPositive x m e) (hy : IsPositive y m' e')
    (hxy : x ≤ y) : Nanoseconds.ofSeconds x ≤ Nanoseconds.ofSeconds y := by
  rw [hx.ofSeconds_eq, hy.ofSeconds_eq]
  refine roundDiv_le_roundDiv (Nat.two_pow_pos _) (Nat.two_pow_pos _) ?_
  rw [mul_right_comm m, mul_right_comm m', mul_right_comm _ Nanoseconds.perSecond,
    mul_right_comm _ Nanoseconds.perSecond]
  exact Nat.mul_le_mul_right _ (hx.cross_le hy hxy)

end

end HeartbeatMesh
