import FederationConfig.Jitter
import Mathlib.Algebra.Order.Ring.Int

namespace FederationConfig.Binary64

theorem units_pos_iff (negative : Bool) (significand : Nat) (exponent : Int) :
    0 < units negative significand exponent ↔ negative = false ∧ significand ≠ 0 := by
  have scale : 0 < (2 : Int) ^ (exponent - leastExponent).toNat := Int.pow_pos (by decide)
  cases negative with
  | true =>
      have magnitude : 0 ≤ (significand : Int) * 2 ^ (exponent - leastExponent).toNat :=
        Int.mul_nonneg (Int.natCast_nonneg _) (Int.le_of_lt scale)
      simp only [units, if_true, Bool.true_eq_false, false_and, iff_false]
      omega
  | false =>
      simp only [units, Bool.false_eq_true, if_false, true_and, mul_pos_iff_of_pos_right scale]
      omega

theorem isPositiveFinite_eq (value : Binary64) :
    value.isPositiveFinite = (value.isFinite && (zero false).less value) := by
  cases value with
  | nan => rfl
  | infinite negative => rfl
  | finite negative significand exponent =>
      have none : units false 0 leastExponent = 0 := by decide
      rw [Bool.eq_iff_iff]
      simp [isPositiveFinite, isFinite, zero, less, none, units_pos_iff]

end FederationConfig.Binary64
