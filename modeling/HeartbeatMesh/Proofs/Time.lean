import Mathlib.Algebra.Order.Ring.Int
import Mathlib.Data.Prod.Lex

/-!
# Finite times

Times are floating point numbers, and these are not in a linear order: one that is no number
compares with nothing, and the two zeros are different but equally great. The finite ones are
compared by sign, exponent and mantissa, that is, as their ranks are (`lt_iff_timeRank_lt`,
`le_iff_timeRank_le`), and ranks are in a linear order. What is not finite lies beyond all that is,
or compares with none of it (`cases_of_not_isFinite`).
-/

namespace HeartbeatMesh

open Float.Model

/-- The place of a number among all others, as sign, exponent and mantissa. Of negative numbers,
those of greater exponent and mantissa come first. -/
def unpackedRank : UnpackedFloat → ℤ ×ₗ ℤ ×ₗ ℤ
  | .finite .positive m e _ => toLex (1, toLex (e, (m : ℤ)))
  | .finite .negative m e _ => toLex (-1, toLex (-e, -(m : ℤ)))
  | .zero _ | .infinity _ | .notANumber => toLex (0, toLex (0, 0))

/-- The place of a finite time among all others. -/
def timeRank (t : Float) : ℤ ×ₗ ℤ ×ₗ ℤ := unpackedRank t.toModel.unpack

/-- Finite numbers compare as their ranks do. -/
theorem compare_iff_unpackedRank {u v : UnpackedFloat} (hu : u.isFinite = true)
    (hv : v.isFinite = true) :
    (u.compare v = some .lt ↔ unpackedRank u < unpackedRank v) ∧
      (u.compare v = some .eq ↔ unpackedRank u = unpackedRank v) := by
  cases u with
  | infinity | notANumber => cases hu
  | zero s =>
    cases v with
    | infinity | notANumber => cases hv
    | zero t =>
      dsimp only [UnpackedFloat.compare, unpackedRank]
      simp
    | finite t m e =>
      cases t <;> dsimp only [UnpackedFloat.compare, unpackedRank] <;>
        simp [Prod.Lex.toLex_lt_toLex]
  | finite s m e =>
    cases v with
    | infinity | notANumber => cases hv
    | zero t =>
      cases s <;> dsimp only [UnpackedFloat.compare, unpackedRank] <;>
        simp [Prod.Lex.toLex_lt_toLex]
    | finite t m' e' =>
      -- Of two negative numbers, the one of greater exponent or mantissa comes first.
      cases s <;> cases t <;> dsimp only [UnpackedFloat.compare, unpackedRank] <;>
        simp [Prod.Lex.toLex_lt_toLex, Ordering.then_eq_lt, Ordering.then_eq_eq, Ordering.swap_then,
          compare_lt_iff_lt, compare_gt_iff_gt]

section

variable {a b : Float}

theorem lt_iff_compare : a < b ↔ a.toModel.unpack.compare b.toModel.unpack = some .lt := by
  change decide (UnpackedFloat.lt _ _ = true) = true ↔ _
  rw [decide_eq_true_iff, UnpackedFloat.lt, beq_iff_eq]

theorem le_iff_compare : a ≤ b ↔ a.toModel.unpack.compare b.toModel.unpack = some .lt ∨
    a.toModel.unpack.compare b.toModel.unpack = some .eq := by
  change decide (UnpackedFloat.le _ _ = true) = true ↔ _
  rw [decide_eq_true_iff, UnpackedFloat.le]
  rcases UnpackedFloat.compare _ _ with _ | _ | _ | _ <;> simp

/-- Finite times come in the order of their ranks. -/
theorem lt_iff_timeRank_lt (ha : a.isFinite = true) (hb : b.isFinite = true) :
    a < b ↔ timeRank a < timeRank b := by
  rw [lt_iff_compare]
  exact (compare_iff_unpackedRank ha hb).1

theorem le_iff_timeRank_le (ha : a.isFinite = true) (hb : b.isFinite = true) :
    a ≤ b ↔ timeRank a ≤ timeRank b := by
  obtain ⟨hlt, heq⟩ := compare_iff_unpackedRank ha hb
  rw [le_iff_compare, hlt, heq, ← le_iff_lt_or_eq]
  rfl

theorem not_lt_iff_le (ha : a.isFinite = true) (hb : b.isFinite = true) : ¬a < b ↔ b ≤ a := by
  rw [lt_iff_timeRank_lt ha hb, le_iff_timeRank_le hb ha, not_lt]

/-- What is not finite is no number, or is greater or less than all finite numbers. -/
theorem cases_of_not_isFinite (ha : ¬a.isFinite = true) :
    (a.isNaN = true ∧ ∀ b : Float, ¬b ≤ a) ∨
      (∀ b : Float, b.isFinite = true → b < a ∧ ¬a ≤ b) ∨
      (∀ b : Float, b.isFinite = true → a < b ∧ ¬b ≤ a) := by
  change ¬a.toModel.unpack.isFinite = true at ha
  change (a.toModel.unpack.isNaN = true ∧ _) ∨ _
  simp only [lt_iff_compare, le_iff_compare]
  cases h : a.toModel.unpack with
  | zero | finite =>
    rw [h] at ha
    exact absurd rfl ha
  | notANumber =>
    refine .inl ⟨rfl, fun b ↦ ?_⟩
    cases b.toModel.unpack <;> dsimp only [UnpackedFloat.compare] <;> simp
  | infinity s =>
    cases s with
    | positive =>
      refine .inr (.inl fun b hb ↦ ?_)
      change b.toModel.unpack.isFinite = true at hb
      generalize b.toModel.unpack = v at hb
      cases v with
      | zero | finite =>
        dsimp only [UnpackedFloat.compare]
        simp
      | infinity | notANumber => cases hb
    | negative =>
      refine .inr (.inr fun b hb ↦ ?_)
      change b.toModel.unpack.isFinite = true at hb
      generalize b.toModel.unpack = v at hb
      cases v with
      | zero | finite =>
        dsimp only [UnpackedFloat.compare]
        simp
      | infinity | notANumber => cases hb

/-- What lies between finite numbers is finite. -/
theorem isFinite_of_le_of_le {c : Float} (ha : a.isFinite = true) (hc : c.isFinite = true)
    (hab : a ≤ b) (hbc : b ≤ c) : b.isFinite = true := by
  by_contra hb
  rcases cases_of_not_isFinite hb with hnan | habove | hbelow
  · exact hnan.2 a hab
  · exact (habove c hc).2 hbc
  · exact (hbelow a ha).2 hab

end

end HeartbeatMesh
