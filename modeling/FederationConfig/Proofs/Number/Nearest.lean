import FederationConfig.Number.Binary64
import Mathlib.Algebra.Order.Floor.Semifield
import Mathlib.Data.Int.Log
import Mathlib.Data.Rat.Floor
import Mathlib.Tactic.Linarith
import Mathlib.Tactic.NormNum
import Mathlib.Tactic.Positivity
import Mathlib.Tactic.Ring

namespace FederationConfig.Binary64

/-- The natural number nearest to a rational that is not negative; from a tie the even one. -/
def nearest (q : ℚ) : ℕ :=
  if ⌊q⌋₊ + 1 / 2 < q ∨ (⌊q⌋₊ + 1 / 2 = q ∧ ⌊q⌋₊ % 2 = 1) then ⌊q⌋₊ + 1 else ⌊q⌋₊

theorem floor_le_nearest (q : ℚ) : ⌊q⌋₊ ≤ nearest q := by
  unfold nearest
  split <;> omega

theorem nearest_le_succ_floor (q : ℚ) : nearest q ≤ ⌊q⌋₊ + 1 := by
  unfold nearest
  split <;> omega

theorem nearest_natCast (k : ℕ) : nearest k = k := by
  have inside : ¬ ((⌊(k : ℚ)⌋₊ : ℚ) + 1 / 2 < k ∨
      ((⌊(k : ℚ)⌋₊ : ℚ) + 1 / 2 = k ∧ ⌊(k : ℚ)⌋₊ % 2 = 1)) := by
    rw [Nat.floor_natCast]
    rintro (above | ⟨tie, _⟩) <;> linarith
  rw [nearest, if_neg inside, Nat.floor_natCast]

theorem nearest_mono : Monotone nearest := by
  intro q r below
  rcases (Nat.floor_mono below).lt_or_eq with apart | same
  · calc
      nearest q ≤ ⌊q⌋₊ + 1 := nearest_le_succ_floor q
      _ ≤ ⌊r⌋₊ := apart
      _ ≤ nearest r := floor_le_nearest r
  -- Between the same two natural numbers the later rational is rounded up if the earlier one is.
  · by_cases up : ⌊q⌋₊ + 1 / 2 < q ∨ (⌊q⌋₊ + 1 / 2 = q ∧ ⌊q⌋₊ % 2 = 1)
    · have upToo : ⌊r⌋₊ + 1 / 2 < r ∨ (⌊r⌋₊ + 1 / 2 = r ∧ ⌊r⌋₊ % 2 = 1) := by
        rw [← same]
        rcases up with above | ⟨tie, odd⟩
        · exact .inl (lt_of_lt_of_le above below)
        · rcases below.lt_or_eq with later | equal
          · exact .inl (tie.trans_lt later)
          · exact .inr ⟨tie.trans equal, odd⟩
      rw [nearest, if_pos up, nearest, if_pos upToo, same]
    · rw [nearest, if_neg up, same]
      exact floor_le_nearest r

theorem le_nearest {k : ℕ} {q : ℚ} (below : (k : ℚ) ≤ q) : k ≤ nearest q := by
  have mono := nearest_mono below
  rwa [nearest_natCast] at mono

theorem nearest_le {k : ℕ} {q : ℚ} (above : q ≤ k) : nearest q ≤ k := by
  have mono := nearest_mono above
  rwa [nearest_natCast] at mono

theorem divideHalfEven_eq (numerator : ℕ) {denominator : ℕ} (positive : 0 < denominator) :
    divideHalfEven numerator denominator = nearest (numerator / denominator) := by
  have quotient : ⌊(numerator : ℚ) / denominator⌋₊ = numerator / denominator :=
    Nat.floor_div_eq_div numerator denominator
  have scale : (0 : ℚ) < denominator := Nat.cast_pos.mpr positive
  have parts : (denominator : ℚ) * (numerator / denominator : ℕ) + (numerator % denominator : ℕ) =
      numerator := by
    exact_mod_cast Nat.div_add_mod numerator denominator
  have above : ((numerator / denominator : ℕ) : ℚ) + 1 / 2 < numerator / denominator ↔
      denominator < 2 * (numerator % denominator) := by
    rw [lt_div_iff₀ scale, ← Nat.cast_lt (α := ℚ)]
    push_cast
    constructor <;> intro given <;> linarith
  have tie : ((numerator / denominator : ℕ) : ℚ) + 1 / 2 = numerator / denominator ↔
      2 * (numerator % denominator) = denominator := by
    rw [eq_div_iff scale.ne', ← Nat.cast_inj (R := ℚ)]
    push_cast
    constructor <;> intro given <;> linarith
  simp only [divideHalfEven, nearest, quotient, above, tie]

theorem two_zpow_pos (exponent : ℤ) : (0 : ℚ) < 2 ^ exponent := zpow_pos two_pos exponent

theorem scaled_nonneg (count : ℕ) (exponent : ℤ) : (0 : ℚ) ≤ count * 2 ^ exponent :=
  mul_nonneg (Nat.cast_nonneg count) (two_zpow_pos exponent).le

theorem ratio_pos {numerator denominator : ℕ} (some : 0 < numerator) (positive : 0 < denominator) :
    (0 : ℚ) < numerator / denominator :=
  div_pos (Nat.cast_pos.mpr some) (Nat.cast_pos.mpr positive)

theorem two_pow_toNat (exponent : ℤ) :
    (2 : ℚ) ^ exponent.toNat = 2 ^ exponent * 2 ^ (-exponent).toNat := by
  rw [← zpow_natCast, ← zpow_natCast, ← zpow_add₀ two_ne_zero]
  congr 1
  omega

theorem two_zpow_le_iff {q : ℚ} (positive : 0 < q) (exponent : ℤ) :
    2 ^ exponent ≤ q ↔ exponent ≤ Int.log 2 q :=
  Int.zpow_le_iff_le_log one_lt_two positive

theorem lt_two_zpow_iff {q : ℚ} (positive : 0 < q) (exponent : ℤ) :
    q < 2 ^ exponent ↔ Int.log 2 q < exponent :=
  Int.lt_zpow_iff_log_lt one_lt_two positive

theorem shifted_ratio (numerator denominator : ℕ) (exponent : ℤ) :
    ((numerator * 2 ^ (-exponent).toNat : ℕ) : ℚ) / (denominator * 2 ^ exponent.toNat : ℕ) =
      numerator / denominator / 2 ^ exponent := by
  have shift : (2 : ℚ) ^ (-exponent).toNat ≠ 0 := pow_ne_zero _ two_ne_zero
  push_cast
  rw [two_pow_toNat exponent, ← mul_assoc, mul_div_mul_right _ _ shift, div_div]

/-- The bits of a ratio are those of its numerator without those of its denominator, or one
less. -/
theorem log_ratio_bounds {numerator denominator : ℕ} (some : 0 < numerator)
    (positive : 0 < denominator) :
    (numerator.log2 : ℤ) - denominator.log2 - 1 ≤ Int.log 2 (numerator / denominator : ℚ) ∧
      Int.log 2 (numerator / denominator : ℚ) < (numerator.log2 : ℤ) - denominator.log2 + 1 := by
  have scale : (0 : ℚ) < denominator := Nat.cast_pos.mpr positive
  have ratio := ratio_pos some positive
  constructor
  · have short : (denominator : ℚ) ≤ 2 ^ (denominator.log2 + 1) := by
      exact_mod_cast Nat.lt_log2_self.le
    rw [← two_zpow_le_iff ratio, le_div_iff₀ scale]
    calc
      (2 : ℚ) ^ ((numerator.log2 : ℤ) - denominator.log2 - 1) * denominator
        ≤ 2 ^ ((numerator.log2 : ℤ) - denominator.log2 - 1) * 2 ^ (denominator.log2 + 1) :=
          mul_le_mul_of_nonneg_left short (two_zpow_pos _).le
      _ = 2 ^ numerator.log2 := by
          rw [← zpow_natCast, ← zpow_natCast, ← zpow_add₀ two_ne_zero]
          congr 1
          push_cast
          ring
      _ ≤ numerator := by exact_mod_cast Nat.log2_self_le some.ne'
  · have long : (2 : ℚ) ^ denominator.log2 ≤ denominator := by
      exact_mod_cast Nat.log2_self_le positive.ne'
    rw [← lt_two_zpow_iff ratio, div_lt_iff₀ scale]
    calc
      (numerator : ℚ) < 2 ^ (numerator.log2 + 1) := by exact_mod_cast Nat.lt_log2_self
      _ = 2 ^ ((numerator.log2 : ℤ) - denominator.log2 + 1) * 2 ^ denominator.log2 := by
          rw [← zpow_natCast, ← zpow_natCast, ← zpow_add₀ two_ne_zero]
          congr 1
          push_cast
          ring
      _ ≤ 2 ^ ((numerator.log2 : ℤ) - denominator.log2 + 1) * denominator :=
          mul_le_mul_of_nonneg_left long (two_zpow_pos _).le

theorem ratioLog2_eq {numerator denominator : ℕ} (some : 0 < numerator)
    (positive : 0 < denominator) :
    ratioLog2 numerator denominator = Int.log 2 (numerator / denominator : ℚ) := by
  have ratio := ratio_pos some positive
  have guessed (guess : ℤ) :
      denominator * 2 ^ guess.toNat ≤ numerator * 2 ^ (-guess).toNat ↔
        guess ≤ Int.log 2 (numerator / denominator : ℚ) := by
    have stretched : (0 : ℚ) < (denominator * 2 ^ guess.toNat : ℕ) :=
      Nat.cast_pos.mpr (Nat.mul_pos positive (Nat.two_pow_pos _))
    rw [← two_zpow_le_iff ratio, ← Nat.cast_le (α := ℚ), ← one_le_div stretched, shifted_ratio,
      one_le_div (two_zpow_pos guess)]
  obtain ⟨least, greatest⟩ := log_ratio_bounds some positive
  simp only [ratioLog2, guessed]
  split <;> omega

/-- The power of two that spaces the numbers around a rational. -/
def grid (q : ℚ) : ℤ := max leastExponent (Int.log 2 q - 52)

theorem gridExponent_eq {numerator denominator : ℕ} (some : 0 < numerator)
    (positive : 0 < denominator) :
    gridExponent numerator denominator = grid (numerator / denominator) := by
  rw [gridExponent, ratioLog2_eq some positive, grid]

theorem leastExponent_le_grid (q : ℚ) : leastExponent ≤ grid q := le_max_left _ _

theorem grid_mono {q r : ℚ} (positive : 0 < q) (below : q ≤ r) : grid q ≤ grid r :=
  max_le_max_left _ (sub_le_sub_right (Int.log_mono_right positive below) 52)

theorem div_grid_lt (q : ℚ) : q / 2 ^ grid q < 2 ^ 53 := by
  have top : q < 2 ^ (Int.log 2 q + 1) := Int.lt_zpow_succ_log_self one_lt_two q
  have step : Int.log 2 q + 1 ≤ 53 + grid q := by
    have wide := le_max_right leastExponent (Int.log 2 q - 52)
    rw [grid]
    omega
  rw [div_lt_iff₀ (two_zpow_pos _)]
  calc
    q < 2 ^ (Int.log 2 q + 1) := top
    _ ≤ 2 ^ (53 + grid q) := zpow_le_zpow_right₀ one_le_two step
    _ = 2 ^ 53 * 2 ^ grid q := by rw [zpow_add₀ two_ne_zero]; rfl

theorem le_div_grid {q : ℚ} (positive : 0 < q) (above : leastExponent < grid q) :
    2 ^ 52 ≤ q / 2 ^ grid q := by
  have wide : Int.log 2 q = 52 + grid q := by
    rw [grid] at above ⊢
    omega
  rw [le_div_iff₀ (two_zpow_pos _)]
  calc
    (2 : ℚ) ^ 52 * 2 ^ grid q = 2 ^ (52 + grid q) := by rw [zpow_add₀ two_ne_zero]; rfl
    _ = 2 ^ Int.log 2 q := by rw [wide]
    _ ≤ q := Int.zpow_log_le_self one_lt_two positive

def steps (q : ℚ) : ℕ := nearest (q / 2 ^ grid q)

theorem steps_le (q : ℚ) : steps q ≤ 2 ^ 53 := by
  apply nearest_le
  push_cast
  exact (div_grid_lt q).le

theorem le_steps {q : ℚ} (positive : 0 < q) (above : leastExponent < grid q) :
    2 ^ 52 ≤ steps q := by
  apply le_nearest
  push_cast
  exact le_div_grid positive above

/-- A rational rounded to 53 bits, but no finer than the least exponent allows. -/
def rounded (q : ℚ) : ℚ := steps q * 2 ^ grid q

theorem rounded_nonneg (q : ℚ) : 0 ≤ rounded q := scaled_nonneg (steps q) (grid q)

theorem rounded_zero : rounded 0 = 0 := by
  have none : steps 0 = 0 := by
    rw [steps, zero_div]
    exact nearest_natCast 0
  rw [rounded, none, Nat.cast_zero, zero_mul]

theorem rounded_mono {q r : ℚ} (nonneg : 0 ≤ q) (below : q ≤ r) : rounded q ≤ rounded r := by
  rcases nonneg.eq_or_lt with rfl | positive
  · rw [rounded_zero]
    exact rounded_nonneg r
  rcases (grid_mono positive below).lt_or_eq with apart | same
  -- Numbers on different grids have a power of two between them.
  · have above : leastExponent < grid r := lt_of_le_of_lt (leastExponent_le_grid q) apart
    have full := le_steps (lt_of_lt_of_le positive below) above
    calc
      rounded q ≤ 2 ^ 53 * 2 ^ grid q := by
        apply mul_le_mul_of_nonneg_right _ (two_zpow_pos _).le
        exact_mod_cast steps_le q
      _ = 2 ^ (53 + grid q) := by rw [zpow_add₀ two_ne_zero]; rfl
      _ ≤ 2 ^ (52 + grid r) := zpow_le_zpow_right₀ one_le_two (by omega)
      _ = 2 ^ 52 * 2 ^ grid r := by rw [zpow_add₀ two_ne_zero]; rfl
      _ ≤ rounded r := by
        apply mul_le_mul_of_nonneg_right _ (two_zpow_pos _).le
        exact_mod_cast full
  · have counts : steps q ≤ steps r := by
      rw [steps, steps, same]
      exact nearest_mono (div_le_div_of_nonneg_right below (two_zpow_pos _).le)
    rw [rounded, rounded, same]
    exact mul_le_mul_of_nonneg_right (Nat.cast_le.mpr counts) (two_zpow_pos _).le

theorem rounded_eq_self {significand : ℕ} {exponent : ℤ} (short : significand < 2 ^ 53)
    (fine : leastExponent ≤ exponent) :
    rounded (significand * 2 ^ exponent) = significand * 2 ^ exponent := by
  rcases Nat.eq_zero_or_pos significand with rfl | some
  · rw [Nat.cast_zero, zero_mul, rounded_zero]
  have positive : (0 : ℚ) < significand * 2 ^ exponent :=
    mul_pos (Nat.cast_pos.mpr some) (two_zpow_pos _)
  have finer : grid (significand * 2 ^ exponent) ≤ exponent := by
    have top : (significand * 2 ^ exponent : ℚ) < 2 ^ (53 + exponent) := by
      rw [zpow_add₀ two_ne_zero]
      apply mul_lt_mul_of_pos_right _ (two_zpow_pos _)
      exact_mod_cast short
    have log := (lt_two_zpow_iff positive _).mp top
    exact max_le fine (by omega)
  have count : (significand * 2 ^ exponent : ℚ) / 2 ^ grid (significand * 2 ^ exponent) =
      (significand * 2 ^ (exponent - grid (significand * 2 ^ exponent)).toNat : ℕ) := by
    push_cast
    rw [← zpow_natCast, Int.toNat_of_nonneg (sub_nonneg.mpr finer), zpow_sub₀ two_ne_zero,
      mul_div_assoc]
  rw [rounded, steps, count, nearest_natCast, ← count, div_mul_cancel₀ _ (two_zpow_pos _).ne']

end FederationConfig.Binary64
