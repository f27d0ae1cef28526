import FederationConfig.Proofs.Number.Nearest

/-!
The order of numbers by their exact values. An infinity stands where the finite numbers end, so
that rounding to it is rounding like any other: comparison is the order of the levels, and each
operation is a monotone function of them.
-/

namespace FederationConfig.Binary64

def signed (negative : Bool) (magnitude : ℚ) : ℚ := if negative then -magnitude else magnitude

theorem signed_mul (n m : Bool) (a b : ℚ) :
    signed (n != m) (a * b) = signed n a * signed m b := by
  cases n <;> cases m <;> simp [signed]

def bySign (f : ℚ → ℚ) (q : ℚ) : ℚ := if 0 ≤ q then f q else -f (-q)

theorem bySign_of_nonneg (f : ℚ → ℚ) {q : ℚ} (nonneg : 0 ≤ q) : bySign f q = f q := if_pos nonneg

theorem bySign_signed {f : ℚ → ℚ} (zero : f 0 = 0) (negative : Bool) {q : ℚ} (nonneg : 0 ≤ q) :
    bySign f (signed negative q) = signed negative (f q) := by
  cases negative with
  | false => exact bySign_of_nonneg f nonneg
  | true =>
      rcases nonneg.eq_or_lt with rfl | positive
      · simp [bySign, signed, zero]
      · have below : ¬ (0 : ℚ) ≤ -q := not_le.mpr (neg_lt_zero.mpr positive)
        simp [bySign, signed, below]

theorem bySign_mono {f : ℚ → ℚ} (zero : f 0 = 0)
    (mono : ∀ q r : ℚ, 0 ≤ q → q ≤ r → f q ≤ f r) : Monotone (bySign f) := by
  have nonneg (q : ℚ) (given : 0 ≤ q) : 0 ≤ f q := zero ▸ mono 0 q le_rfl given
  intro q r below
  by_cases left : 0 ≤ q
  · rw [bySign_of_nonneg f left, bySign_of_nonneg f (left.trans below)]
    exact mono q r left below
  · have negated : 0 ≤ -q := by linarith
    by_cases right : 0 ≤ r
    · calc
        bySign f q = -f (-q) := if_neg left
        _ ≤ 0 := neg_nonpos.mpr (nonneg _ negated)
        _ ≤ bySign f r := by
          rw [bySign_of_nonneg f right]
          exact nonneg r right
    · rw [bySign, if_neg left, bySign, if_neg right]
      exact neg_le_neg (mono (-r) (-q) (by linarith) (neg_le_neg below))

def toRat : Binary64 → ℚ
  | .finite negative significand exponent => signed negative (significand * 2 ^ exponent)
  | _ => 0

/-- The power of two that no finite number reaches. -/
@[irreducible]
def ceiling : ℚ := 2 ^ (53 + greatestExponent)

theorem ceiling_pos : 0 < ceiling := by
  rw [ceiling]
  exact two_zpow_pos _

theorem exists_ceiling_eq_natCast : ∃ k : ℕ, ceiling = k := by
  refine ⟨2 ^ (53 + greatestExponent).toNat, ?_⟩
  rw [ceiling, Nat.cast_pow, Nat.cast_two, ← zpow_natCast, Int.toNat_of_nonneg (by decide)]

/-- Where a number stands in the order of all numbers. -/
def level : Binary64 → ℚ
  | .infinite negative => signed negative ceiling
  | x => x.toRat

/-- The numbers of the format, an infinity being one and `nan` none. -/
def IsRepresentable : Binary64 → Prop
  | .nan => False
  | .infinite _ => True
  | .finite _ significand exponent =>
    significand < 2 ^ 53 ∧ leastExponent ≤ exponent ∧ exponent ≤ greatestExponent

theorem IsRepresentable.ne_nan {x : Binary64} (fits : x.IsRepresentable) : x ≠ .nan := by
  rintro rfl
  exact fits

theorem magnitude_lt_ceiling {significand : ℕ} {exponent : ℤ} (short : significand < 2 ^ 53)
    (inside : exponent ≤ greatestExponent) : (significand * 2 ^ exponent : ℚ) < ceiling := by
  calc
    (significand * 2 ^ exponent : ℚ) < 2 ^ 53 * 2 ^ exponent := by
      apply mul_lt_mul_of_pos_right _ (two_zpow_pos _)
      exact_mod_cast short
    _ ≤ 2 ^ 53 * 2 ^ greatestExponent :=
      mul_le_mul_of_nonneg_left (zpow_le_zpow_right₀ one_le_two inside) (by norm_num)
    _ = ceiling := by rw [ceiling, zpow_add₀ two_ne_zero]; rfl

theorem ceiling_le_magnitude {significand : ℕ} {exponent : ℤ} (full : 2 ^ 52 ≤ significand)
    (outside : greatestExponent < exponent) : ceiling ≤ (significand * 2 ^ exponent : ℚ) := by
  calc
    ceiling ≤ 2 ^ (52 + exponent) := by
      rw [ceiling]
      exact zpow_le_zpow_right₀ one_le_two (by omega)
    _ = 2 ^ 52 * 2 ^ exponent := by rw [zpow_add₀ two_ne_zero]; rfl
    _ ≤ significand * 2 ^ exponent := by
      apply mul_le_mul_of_nonneg_right _ (two_zpow_pos _).le
      exact_mod_cast full

theorem bounds_of_finite {x : Binary64} (fits : x.IsRepresentable) (finite : x.isFinite) :
    -ceiling < x.level ∧ x.level < ceiling := by
  cases x with
  | nan => exact fits.elim
  | infinite negative => exact absurd finite Bool.false_ne_true
  | finite negative significand exponent =>
      have nonneg := scaled_nonneg significand exponent
      have inside := magnitude_lt_ceiling fits.1 fits.2.2
      have top := ceiling_pos
      cases negative <;> simp only [level, toRat, signed, Bool.false_eq_true, if_true, if_false] <;>
        constructor <;> linarith

theorem level_bounds {x : Binary64} (fits : x.IsRepresentable) :
    -ceiling ≤ x.level ∧ x.level ≤ ceiling := by
  have top := ceiling_pos
  cases x with
  | nan => exact fits.elim
  | infinite negative =>
      cases negative <;> simp only [level, signed, Bool.false_eq_true, if_true, if_false] <;>
        constructor <;> linarith
  | finite negative significand exponent =>
      have inside := bounds_of_finite fits rfl
      exact ⟨inside.1.le, inside.2.le⟩

theorem units_eq (negative : Bool) (significand : ℕ) {exponent : ℤ}
    (fine : leastExponent ≤ exponent) :
    (units negative significand exponent : ℚ) =
      signed negative (significand * 2 ^ exponent) * 2 ^ (-leastExponent) := by
  have shift :
      (2 : ℚ) ^ (exponent - leastExponent).toNat = 2 ^ exponent * 2 ^ (-leastExponent) := by
    rw [← zpow_natCast, ← zpow_add₀ two_ne_zero]
    congr 1
    omega
  cases negative <;>
    simp only [units, signed, Bool.false_eq_true, if_true, if_false] <;> push_cast <;>
    rw [shift] <;> ring

theorem less_iff {x y : Binary64} (fits : x.IsRepresentable) (fitsToo : y.IsRepresentable) :
    x.less y ↔ x.level < y.level := by
  have top := ceiling_pos
  cases x with
  | nan => exact fits.elim
  | infinite negative =>
      cases y with
      | nan => exact fitsToo.elim
      | infinite other =>
          cases negative <;> cases other <;> simp [less, level, signed] <;> linarith
      | finite other significand exponent =>
          obtain ⟨above, below⟩ := bounds_of_finite fitsToo rfl
          cases negative
          · simpa [less, level, signed] using below.le
          · simpa [less, level, signed] using above
  | finite negative significand exponent =>
      cases y with
      | nan => exact fitsToo.elim
      | infinite other =>
          obtain ⟨above, below⟩ := bounds_of_finite fits rfl
          cases other
          · simpa [less, level, signed] using below
          · simpa [less, level, signed] using above.le
      | finite other otherSignificand otherExponent =>
          rw [less, decide_eq_true_eq, ← Int.cast_lt (R := ℚ), units_eq _ _ fits.2.1,
            units_eq _ _ fitsToo.2.1, mul_lt_mul_iff_left₀ (two_zpow_pos _)]
          rfl

end FederationConfig.Binary64
