import FederationConfig.Proofs.Duration.Digits
import Mathlib.Algebra.Order.Floor.Semifield
import Mathlib.Data.Rat.Floor
import Mathlib.Tactic.FieldSimp
import Mathlib.Tactic.Ring

namespace FederationConfig.Duration

def fractionValue : List Char → ℚ
  | [] => 0
  | c :: rest => ((c.toNat - '0'.toNat : ℕ) + fractionValue rest) / 10

/-- The whole nanoseconds in a fraction of a unit. -/
def exactNanoseconds (digits : List Char) (unit : TimeUnit) : Nat :=
  ⌊fractionValue digits * unit.nanoseconds⌋₊

theorem fractionValue_eq (digits : List Char) :
    fractionValue digits = digitsValue digits / 10 ^ digits.length := by
  induction digits with
  | nil => simp [fractionValue, digitsValue]
  | cons c rest ih =>
      rw [fractionValue, ih, digitsValue_cons, List.length_cons, pow_succ]
      push_cast
      field_simp

theorem exactNanoseconds_eq (digits : List Char) (unit : TimeUnit) :
    exactNanoseconds digits unit =
      digitsValue digits * unit.nanoseconds / 10 ^ digits.length := by
  have ratio : fractionValue digits * unit.nanoseconds =
      ((digitsValue digits * unit.nanoseconds : ℕ) : ℚ) / ((10 ^ digits.length : ℕ) : ℚ) := by
    rw [fractionValue_eq]
    push_cast
    ring
  rw [exactNanoseconds, ratio, Nat.floor_div_eq_div]

theorem fractionNanoseconds_of_short {digits : List Char} (short : digits.length ≤ fractionPlaces)
    (unit : TimeUnit) : fractionNanoseconds digits unit = exactNanoseconds digits unit := by
  rw [fractionNanoseconds, exactNanoseconds_eq, List.take_of_length_le short]

variable {kept dropped power places scale : Nat}

theorem div_of_dropped (positive : 0 < scale) (small : dropped < power) (parts : Nat) :
    (kept * power + dropped) * scale / (parts * scale * power) =
      kept * scale / (parts * scale) := by
  have some : 0 < power := Nat.lt_of_le_of_lt (Nat.zero_le dropped) small
  calc
    (kept * power + dropped) * scale / (parts * scale * power) =
        (kept * power + dropped) * scale / (power * parts * scale) := by
      rw [Nat.mul_comm (parts * scale), Nat.mul_assoc power]
    _ = (kept * power + dropped) / power / parts := by
      rw [Nat.mul_div_mul_right _ _ positive, Nat.div_div_eq_div_mul]
    _ = kept / parts := by
      rw [Nat.mul_comm kept, Nat.mul_add_div some, Nat.div_eq_of_lt small, Nat.add_zero]
    _ = kept * scale / (parts * scale) := (Nat.mul_div_mul_right _ _ positive).symm

theorem le_div_of_dropped (some : 0 < power) :
    kept * scale / places ≤ (kept * power + dropped) * scale / (places * power) := by
  calc
    kept * scale / places = kept * scale * power / (places * power) :=
      (Nat.mul_div_mul_right _ _ some).symm
    _ ≤ (kept * power + dropped) * scale / (places * power) := by
      apply Nat.div_le_div_right
      rw [Nat.mul_right_comm]
      exact Nat.mul_le_mul_right scale (Nat.le_add_right _ _)

theorem div_of_dropped_le (narrow : scale ≤ places) (positive : 0 < places)
    (small : dropped < power) :
    (kept * power + dropped) * scale / (places * power) ≤ kept * scale / places + 1 := by
  have some : 0 < power := Nat.lt_of_le_of_lt (Nat.zero_le dropped) small
  have front : kept * scale ≤ places * (kept * scale / places + 1) :=
    (Nat.lt_mul_div_succ _ positive).le
  have back : dropped * scale < power * places :=
    Nat.lt_of_le_of_lt (Nat.mul_le_mul_left dropped narrow)
      (Nat.mul_lt_mul_of_pos_right small positive)
  apply Nat.le_of_lt_succ
  rw [Nat.div_lt_iff_lt_mul (Nat.mul_pos positive some)]
  calc
    (kept * power + dropped) * scale = kept * scale * power + dropped * scale := by ring
    _ < places * (kept * scale / places + 1) * power + power * places :=
      Nat.add_lt_add_of_le_of_lt (Nat.mul_le_mul_right power front) back
    _ = (kept * scale / places + 1 + 1) * (places * power) := by ring

theorem exactNanoseconds_of_long {digits : List Char} (all : ∀ c ∈ digits, c.isDigit)
    (long : fractionPlaces ≤ digits.length) (unit : TimeUnit) :
    ∃ dropped power, dropped < power ∧
      fractionNanoseconds digits unit =
        digitsValue (digits.take fractionPlaces) * unit.nanoseconds / 10 ^ 18 ∧
      exactNanoseconds digits unit =
        (digitsValue (digits.take fractionPlaces) * power + dropped) * unit.nanoseconds /
          (10 ^ 18 * power) := by
  have keptLength : (digits.take fractionPlaces).length = 18 := List.length_take_of_le long
  have parts := digitsValue_append (digits.take fractionPlaces) (digits.drop fractionPlaces)
  rw [List.take_append_drop] at parts
  have length : digits.length = 18 + (digits.drop fractionPlaces).length := by
    rw [← keptLength, ← List.length_append, List.take_append_drop]
  refine ⟨digitsValue (digits.drop fractionPlaces), 10 ^ (digits.drop fractionPlaces).length,
    digitsValue_lt fun c member => all c (List.mem_of_mem_drop member), ?_, ?_⟩
  · rw [fractionNanoseconds, keptLength]
  · rw [exactNanoseconds_eq, parts, length, Nat.pow_add]

theorem fractionNanoseconds_bounds {digits : List Char} (all : ∀ c ∈ digits, c.isDigit)
    (unit : TimeUnit) :
    fractionNanoseconds digits unit ≤ exactNanoseconds digits unit ∧
      exactNanoseconds digits unit ≤ fractionNanoseconds digits unit + 1 := by
  rcases Nat.le_total digits.length fractionPlaces with short | long
  · rw [fractionNanoseconds_of_short short]
    exact ⟨Nat.le_refl _, Nat.le_succ _⟩
  · obtain ⟨dropped, power, small, kept, exact⟩ := exactNanoseconds_of_long all long unit
    have narrow : unit.nanoseconds ≤ 10 ^ 18 := by cases unit <;> decide
    rw [kept, exact]
    exact ⟨le_div_of_dropped (Nat.lt_of_le_of_lt (Nat.zero_le dropped) small),
      div_of_dropped_le narrow (by decide) small⟩

theorem fractionNanoseconds_of_dvd {digits : List Char} (all : ∀ c ∈ digits, c.isDigit)
    {unit : TimeUnit} (divides : unit.nanoseconds ∣ 10 ^ 18) :
    fractionNanoseconds digits unit = exactNanoseconds digits unit := by
  rcases Nat.le_total digits.length fractionPlaces with short | long
  · exact fractionNanoseconds_of_short short unit
  · obtain ⟨dropped, power, small, kept, exact⟩ := exactNanoseconds_of_long all long unit
    obtain ⟨parts, places⟩ := divides
    rw [Nat.mul_comm] at places
    rw [kept, exact, places, div_of_dropped unit.nanoseconds_pos small]

/-- A fraction in any number of digits is cut down to its whole nanoseconds, but for one nanosecond
that may be missing in a fraction of a minute or an hour. -/
theorem fractionNanoseconds_near_exact {digits : List Char} (all : ∀ c ∈ digits, c.isDigit)
    (unit : TimeUnit) :
    (unit ∈ [TimeUnit.nanosecond, .microsecond, .millisecond, .second] →
        fractionNanoseconds digits unit = exactNanoseconds digits unit) ∧
      (unit ∈ [TimeUnit.minute, .hour] →
        fractionNanoseconds digits unit = exactNanoseconds digits unit ∨
          fractionNanoseconds digits unit + 1 = exactNanoseconds digits unit) := by
  constructor
  · intro small
    have divides : unit.nanoseconds ∣ 10 ^ 18 := by
      cases unit with
      | minute => simp at small
      | hour => simp at small
      | _ => decide
    exact fractionNanoseconds_of_dvd all divides
  · intro _
    obtain ⟨below, above⟩ := fractionNanoseconds_bounds all unit
    omega

theorem fractionNanoseconds_of_nineteen_digits :
    let digits := "0000000000166666667".toList
    (∀ c ∈ digits, c.isDigit) ∧
      fractionNanoseconds digits .second = exactNanoseconds digits .second ∧
      fractionNanoseconds digits .minute + 1 = exactNanoseconds digits .minute := by
  intro digits
  have all : ∀ c ∈ digits, c.isDigit := List.all_eq_true.mp rfl
  have differs : fractionNanoseconds digits .minute ≠ exactNanoseconds digits .minute := by
    rw [exactNanoseconds_eq]
    decide
  exact ⟨all, (fractionNanoseconds_near_exact all .second).1 (by decide),
    ((fractionNanoseconds_near_exact all .minute).2 (by decide)).resolve_left differs⟩

end FederationConfig.Duration
