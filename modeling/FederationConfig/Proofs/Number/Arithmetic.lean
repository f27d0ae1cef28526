import FederationConfig.Jitter
import FederationConfig.Proofs.Number.Level

namespace FederationConfig.Binary64

/-- The level of the number nearest to a rational. -/
def nearestLevel : ℚ → ℚ := bySign fun q => min (rounded q) ceiling

theorem clipped_zero : min (rounded 0) ceiling = 0 := by
  rw [rounded_zero, min_eq_left ceiling_pos.le]

theorem nearestLevel_signed (negative : Bool) {q : ℚ} (nonneg : 0 ≤ q) :
    nearestLevel (signed negative q) = signed negative (min (rounded q) ceiling) :=
  bySign_signed clipped_zero negative nonneg

theorem nearestLevel_mono : Monotone nearestLevel :=
  bySign_mono clipped_zero fun _ _ nonneg below => min_le_min_right _ (rounded_mono nonneg below)

theorem cut_level (negative : Bool) {significand : ℕ} {exponent : ℤ}
    (short : significand < 2 ^ 53) (fine : leastExponent ≤ exponent)
    (full : exponent = leastExponent ∨ 2 ^ 52 ≤ significand) {x : Binary64}
    (cut : x = if greatestExponent < exponent then .infinite negative
      else .finite negative significand exponent) :
    x.IsRepresentable ∧ x.level = signed negative (min (significand * 2 ^ exponent) ceiling) := by
  by_cases outside : greatestExponent < exponent
  · have wide : 2 ^ 52 ≤ significand := by
      rcases full with rfl | wide
      · exact absurd outside (by decide)
      · exact wide
    rw [cut, if_pos outside, min_eq_right (ceiling_le_magnitude wide outside)]
    exact ⟨trivial, rfl⟩
  · have inside : exponent ≤ greatestExponent := not_lt.mp outside
    rw [cut, if_neg outside, min_eq_left (magnitude_lt_ceiling short inside).le]
    exact ⟨⟨short, fine, inside⟩, rfl⟩

theorem place_level (negative : Bool) {steps : ℕ} {exponent : ℤ} (short : steps ≤ 2 ^ 53)
    (fine : leastExponent ≤ exponent) (full : exponent = leastExponent ∨ 2 ^ 52 ≤ steps) :
    (place negative steps exponent).IsRepresentable ∧
      (place negative steps exponent).level =
        signed negative (min (steps * 2 ^ exponent) ceiling) := by
  by_cases carried : steps = 2 ^ 53
  · have moved : (steps * 2 ^ exponent : ℚ) = (2 ^ 52 : ℕ) * 2 ^ (exponent + 1) := by
      rw [carried, zpow_add_one₀ two_ne_zero]
      push_cast
      ring
    rw [moved]
    apply cut_level negative (by decide) (by omega) (.inr le_rfl)
    simp [place, carried]
  · apply cut_level negative (lt_of_le_of_ne short carried) fine full
    simp [place, carried]

theorem ofRatio_level (negative : Bool) (numerator : ℕ) {denominator : ℕ}
    (positive : 0 < denominator) :
    (ofRatio negative numerator denominator).IsRepresentable ∧
      (ofRatio negative numerator denominator).level =
        nearestLevel (signed negative (numerator / denominator)) := by
  have nonneg : (0 : ℚ) ≤ numerator / denominator :=
    div_nonneg (Nat.cast_nonneg _) (Nat.cast_nonneg _)
  rw [nearestLevel_signed negative nonneg]
  rcases Nat.eq_zero_or_pos numerator with rfl | some
  · rw [ofRatio, if_pos rfl, Nat.cast_zero, zero_div, clipped_zero]
    refine ⟨⟨by decide, by decide, by decide⟩, ?_⟩
    show signed negative (((0 : ℕ) : ℚ) * 2 ^ leastExponent) = signed negative 0
    rw [Nat.cast_zero, zero_mul]
  · have ratio := ratio_pos some positive
    have counted : divideHalfEven
        (numerator * 2 ^ (-grid (numerator / denominator : ℚ)).toNat)
        (denominator * 2 ^ (grid (numerator / denominator : ℚ)).toNat) =
          steps (numerator / denominator) := by
      rw [divideHalfEven_eq _ (Nat.mul_pos positive (Nat.two_pow_pos _)), shifted_ratio, steps]
    rw [ofRatio, if_neg some.ne', gridExponent_eq some positive]
    simp only [counted]
    apply place_level negative (steps_le _) (leastExponent_le_grid _)
    rcases (leastExponent_le_grid (numerator / denominator : ℚ)).eq_or_lt with least | above
    · exact .inl least.symm
    · exact .inr (le_steps ratio above)

theorem nearestLevel_toRat {x : Binary64} (fits : x.IsRepresentable) (finite : x.isFinite) :
    nearestLevel x.toRat = x.toRat := by
  cases x with
  | nan => exact fits.elim
  | infinite negative => exact absurd finite Bool.false_ne_true
  | finite negative significand exponent =>
      have nonneg := scaled_nonneg significand exponent
      rw [toRat, nearestLevel_signed negative nonneg, rounded_eq_self fits.1 fits.2.1,
        min_eq_left (magnitude_lt_ceiling fits.1 fits.2.2).le]

theorem ofInt_level (n : ℤ) : (ofInt n).IsRepresentable ∧ (ofInt n).level = nearestLevel n := by
  have value : signed (decide (n < 0)) ((n.natAbs : ℚ) / (1 : ℕ)) = n := by
    rw [Nat.cast_one, div_one, Nat.cast_natAbs, Int.cast_abs]
    by_cases negative : n < 0
    · rw [signed, if_pos (decide_eq_true negative), abs_of_neg (Int.cast_lt_zero.mpr negative),
        neg_neg]
    · rw [signed, if_neg (by simpa using negative),
        abs_of_nonneg (Int.cast_nonneg (not_lt.mp negative))]
  have rounding := ofRatio_level (decide (n < 0)) n.natAbs Nat.one_pos
  rwa [value] at rounding

theorem ofInt_isRepresentable (n : ℤ) : (ofInt n).IsRepresentable := (ofInt_level n).1

theorem level_ofInt_mono {n m : ℤ} (below : n ≤ m) : (ofInt n).level ≤ (ofInt m).level := by
  rw [(ofInt_level n).2, (ofInt_level m).2]
  exact nearestLevel_mono (Int.cast_le.mpr below)

theorem level_ofInt_nonneg {n : ℤ} (nonneg : 0 ≤ n) : 0 ≤ (ofInt n).level := by
  have zero : (ofInt 0).level = 0 := by
    show signed false (((0 : ℕ) : ℚ) * 2 ^ leastExponent) = 0
    rw [Nat.cast_zero, zero_mul]
    rfl
  exact zero ▸ level_ofInt_mono nonneg

theorem exists_clipped_eq_natCast (n : ℕ) : ∃ k : ℕ, min (rounded n) ceiling = k := by
  obtain ⟨top, outside⟩ := exists_ceiling_eq_natCast
  have whole : ∃ k : ℕ, rounded n = k := by
    by_cases short : n < 2 ^ 53
    · have exact := rounded_eq_self short (show leastExponent ≤ 0 by decide)
      rw [zpow_zero, mul_one] at exact
      exact ⟨n, exact⟩
    · have log : 53 ≤ Int.log 2 (n : ℚ) := by
        have positive : (0 : ℚ) < n := Nat.cast_pos.mpr (by omega)
        rw [← two_zpow_le_iff positive]
        exact_mod_cast not_lt.mp short
      have nonneg : 0 ≤ grid n := le_max_of_le_right (by omega)
      refine ⟨steps n * 2 ^ (grid n).toNat, ?_⟩
      rw [rounded, Nat.cast_mul, Nat.cast_pow, Nat.cast_two, ← zpow_natCast,
        Int.toNat_of_nonneg nonneg]
  obtain ⟨k, whole⟩ := whole
  exact ⟨min k top, by rw [whole, outside, Nat.cast_min]⟩

def wholePart : ℚ → ℚ := bySign fun q => ⌊q⌋₊

theorem floor_zero : ((⌊(0 : ℚ)⌋₊ : ℕ) : ℚ) = 0 := by rw [Nat.floor_zero, Nat.cast_zero]

theorem wholePart_signed (negative : Bool) {q : ℚ} (nonneg : 0 ≤ q) :
    wholePart (signed negative q) = signed negative ⌊q⌋₊ :=
  bySign_signed floor_zero negative nonneg

theorem wholePart_mono : Monotone wholePart :=
  bySign_mono floor_zero fun _ _ _ below => Nat.cast_le.mpr (Nat.floor_mono below)

theorem wholePart_natCast (negative : Bool) (k : ℕ) :
    wholePart (signed negative k) = signed negative k := by
  rw [wholePart_signed negative (Nat.cast_nonneg k), Nat.floor_natCast]

theorem wholePart_level_ofInt (n : ℤ) : wholePart (ofInt n).level = (ofInt n).level := by
  have rounding := (ofRatio_level (decide (n < 0)) n.natAbs Nat.one_pos).2
  obtain ⟨k, whole⟩ := exists_clipped_eq_natCast n.natAbs
  rw [Nat.cast_one, div_one, nearestLevel_signed _ (Nat.cast_nonneg _), whole] at rounding
  rw [ofInt, rounding, wholePart_natCast]

/-- The whole part of a number is always one of the format. -/
theorem truncate_level {x : Binary64} (fits : x.IsRepresentable) :
    x.truncate.IsRepresentable ∧ x.truncate.level = wholePart x.level := by
  cases x with
  | nan => exact fits.elim
  | infinite negative =>
      obtain ⟨top, outside⟩ := exists_ceiling_eq_natCast
      refine ⟨trivial, ?_⟩
      show signed negative ceiling = wholePart (signed negative ceiling)
      rw [outside, wholePart_natCast]
  | finite negative significand exponent =>
      show _ ∧ _ = wholePart (signed negative (significand * 2 ^ exponent))
      by_cases whole : 0 ≤ exponent
      · have value : (significand * 2 ^ exponent : ℚ) = (significand * 2 ^ exponent.toNat : ℕ) := by
          push_cast
          rw [← zpow_natCast, Int.toNat_of_nonneg whole]
        rw [truncate, if_pos whole, value, wholePart_natCast, ← value]
        exact ⟨fits, rfl⟩
      · have shift : (2 : ℚ) ^ exponent = ((2 ^ (-exponent).toNat : ℕ) : ℚ)⁻¹ := by
          push_cast
          rw [← zpow_natCast, ← zpow_neg]
          congr 1
          omega
        have floor : ⌊(significand * 2 ^ exponent : ℚ)⌋₊ = significand / 2 ^ (-exponent).toNat := by
          rw [shift, ← div_eq_mul_inv, Nat.floor_div_eq_div]
        have short : significand / 2 ^ (-exponent).toNat < 2 ^ 53 :=
          lt_of_le_of_lt (Nat.div_le_self _ _) fits.1
        have small := magnitude_lt_ceiling short (show 0 ≤ greatestExponent by decide)
        have exact := rounded_eq_self short (show leastExponent ≤ 0 by decide)
        rw [zpow_zero, mul_one] at small exact
        have rounding := ofRatio_level negative (significand / 2 ^ (-exponent).toNat) Nat.one_pos
        rw [Nat.cast_one, div_one, nearestLevel_signed negative (Nat.cast_nonneg _), exact,
          min_eq_left small.le] at rounding
        rw [truncate, if_neg whole, wholePart_signed negative
          (scaled_nonneg significand exponent), floor]
        exact rounding

theorem exists_of_isPositiveFinite {factor : Binary64} (positive : factor.isPositiveFinite) :
    ∃ significand exponent, factor = .finite false significand exponent ∧ 0 < factor.toRat := by
  cases factor with
  | nan => exact absurd positive Bool.false_ne_true
  | infinite negative => exact absurd positive Bool.false_ne_true
  | finite negative significand exponent =>
      simp only [isPositiveFinite, Bool.and_eq_true, Bool.not_eq_true', bne_iff_ne] at positive
      obtain ⟨rfl, some⟩ := positive
      have count : (0 : ℚ) < significand := Nat.cast_pos.mpr (Nat.pos_of_ne_zero some)
      exact ⟨significand, exponent, rfl, mul_pos count (two_zpow_pos _)⟩

theorem multiply_finite_level (n m : Bool) (s t : ℕ) (e f : ℤ) :
    ((finite n s e).multiply (finite m t f)).IsRepresentable ∧
      ((finite n s e).multiply (finite m t f)).level =
        nearestLevel ((finite n s e).toRat * (finite m t f).toRat) := by
  have ratio : ((s * t * 2 ^ (e + f).toNat : ℕ) : ℚ) / (2 ^ (-(e + f)).toNat : ℕ) =
      s * 2 ^ e * (t * 2 ^ f) := by
    have shifted := shifted_ratio (s * t) 1 (-(e + f))
    rw [neg_neg, one_mul, Nat.cast_one, div_one, zpow_neg, div_inv_eq_mul,
      zpow_add₀ two_ne_zero] at shifted
    rw [shifted]
    push_cast
    ring
  have rounding := ofRatio_level (n != m) (s * t * 2 ^ (e + f).toNat)
    (Nat.two_pow_pos (-(e + f)).toNat)
  rwa [ratio, signed_mul] at rounding

/-- An infinity stays one; any other product is the nearest number to the exact one. -/
theorem multiply_level {x factor : Binary64} (fits : x.IsRepresentable)
    (positive : factor.isPositiveFinite) :
    (x.multiply factor).IsRepresentable ∧
      (x.multiply factor).level =
        if x.isFinite then nearestLevel (x.level * factor.toRat) else x.level := by
  obtain ⟨significand, exponent, rfl, above⟩ := exists_of_isPositiveFinite positive
  cases x with
  | nan => exact fits.elim
  | infinite negative =>
      have some : significand ≠ 0 := by simpa [isPositiveFinite] using positive
      have same : (infinite negative).multiply (finite false significand exponent) =
          infinite negative := by
        cases significand with
        | zero => exact absurd rfl some
        | succ n => simp [multiply, isZero, isNegative]
      rw [same]
      exact ⟨trivial, rfl⟩
  | finite negative count unit =>
      exact multiply_finite_level negative false count significand unit exponent

theorem multiply_isRepresentable {x factor : Binary64} (fits : x.IsRepresentable)
    (positive : factor.isPositiveFinite) : (x.multiply factor).IsRepresentable :=
  (multiply_level fits positive).1

theorem level_of_infinite {x : Binary64} (fits : x.IsRepresentable) (infinite : ¬ x.isFinite) :
    x.level = -ceiling ∨ x.level = ceiling := by
  cases x with
  | nan => exact fits.elim
  | infinite negative =>
      cases negative
      · exact .inr rfl
      · exact .inl rfl
  | finite => exact absurd rfl infinite

theorem level_multiply_mono {x y factor : Binary64} (fits : x.IsRepresentable)
    (fitsToo : y.IsRepresentable) (positive : factor.isPositiveFinite)
    (below : x.level ≤ y.level) : (x.multiply factor).level ≤ (y.multiply factor).level := by
  obtain ⟨_, _, _, above⟩ := exists_of_isPositiveFinite positive
  have product := multiply_level fits positive
  have productToo := multiply_level fitsToo positive
  have least := (level_bounds productToo.1).1
  have greatest := (level_bounds product.1).2
  -- The cases are the infinities: a product with one stays at its end of the order.
  by_cases left : x.isFinite
  · by_cases right : y.isFinite
    · rw [product.2, if_pos left, productToo.2, if_pos right]
      exact nearestLevel_mono (mul_le_mul_of_nonneg_right below above.le)
    · have inside := bounds_of_finite fits left
      rcases level_of_infinite fitsToo right with bottom | top
      · linarith
      · calc
          (x.multiply factor).level ≤ ceiling := greatest
          _ = (y.multiply factor).level := by rw [productToo.2, if_neg right, top]
  · rcases level_of_infinite fits left with bottom | top
    · calc
        (x.multiply factor).level = -ceiling := by rw [product.2, if_neg left, bottom]
        _ ≤ (y.multiply factor).level := least
    · have infinite : ¬ y.isFinite := fun finite => by
        have inside := bounds_of_finite fitsToo finite
        linarith
      rwa [product.2, if_neg left, productToo.2, if_neg infinite]

theorem level_multiply_mono_factor {x factor greater : Binary64} (fits : x.IsRepresentable)
    (positive : factor.isPositiveFinite) (positiveToo : greater.isPositiveFinite)
    (nonneg : 0 ≤ x.level) (below : factor.toRat ≤ greater.toRat) :
    (x.multiply factor).level ≤ (x.multiply greater).level := by
  rw [(multiply_level fits positive).2, (multiply_level fits positiveToo).2]
  by_cases finite : x.isFinite
  · rw [if_pos finite, if_pos finite]
    exact nearestLevel_mono (mul_le_mul_of_nonneg_left below nonneg)
  · rw [if_neg finite, if_neg finite]

/-- Rounding cannot take a product with a factor of at least one below the number itself, which
is a number of the format. -/
theorem level_le_multiply {x factor : Binary64} (fits : x.IsRepresentable)
    (positive : factor.isPositiveFinite) (nonneg : 0 ≤ x.level) (atLeastOne : 1 ≤ factor.toRat) :
    x.level ≤ (x.multiply factor).level := by
  rw [(multiply_level fits positive).2]
  by_cases finite : x.isFinite
  · have value : x.level = x.toRat := by
      cases x with
      | infinite => exact absurd finite Bool.false_ne_true
      | _ => rfl
    rw [if_pos finite]
    calc
      x.level = nearestLevel x.level := by rw [value, nearestLevel_toRat fits finite]
      _ ≤ nearestLevel (x.level * factor.toRat) :=
        nearestLevel_mono (le_mul_of_one_le_right nonneg atLeastOne)
  · rw [if_neg finite]

end FederationConfig.Binary64
