import FederationConfig.Duration.Reading
import FederationConfig.Duration.Rendering
import FederationConfig.Proofs.Text.Digits
import Mathlib.Data.List.DropRight

namespace FederationConfig.Duration

open Text (isDigit_of_mem_toDigits bounds_of_isDigit)

theorem digitsValue_toDigits (n : Nat) : digitsValue (Nat.toDigits 10 n) = n :=
  Nat.ofDigitChars_ten_toDigits

theorem digitsValue_append (front back : List Char) :
    digitsValue (front ++ back) = digitsValue front * 10 ^ back.length + digitsValue back := by
  rw [digitsValue, Nat.ofDigitChars_append, Nat.ofDigitChars_eq_ofDigitChars_zero, Nat.mul_comm]
  rfl

theorem digitsValue_zeros (count : Nat) : digitsValue (List.replicate count '0') = 0 := by
  rw [digitsValue, Nat.ofDigitChars_replicate_zero, Nat.mul_zero]

theorem le_ofDigitChars (digits : List Char) (start : Nat) :
    start ≤ Nat.ofDigitChars 10 digits start := by
  have positive : 0 < 10 ^ digits.length := Nat.pow_pos (by decide)
  have grows := Nat.le_mul_of_pos_left start positive
  rw [Nat.ofDigitChars_eq_ofDigitChars_zero]
  exact Nat.le_trans grows (Nat.le_add_right _ _)

theorem digitsValue_cons (c : Char) (rest : List Char) :
    digitsValue (c :: rest) =
      (c.toNat - '0'.toNat) * 10 ^ rest.length + digitsValue rest := by
  rw [digitsValue, Nat.ofDigitChars_cons, Nat.mul_zero, Nat.zero_add,
    Nat.ofDigitChars_eq_ofDigitChars_zero, Nat.mul_comm]
  rfl

theorem digitsValue_lt {digits : List Char} (all : ∀ c ∈ digits, c.isDigit) :
    digitsValue digits < 10 ^ digits.length := by
  induction digits with
  | nil => decide
  | cons c rest ih =>
      have bounds := bounds_of_isDigit (all c List.mem_cons_self)
      have zero : '0'.toNat = 48 := rfl
      have bound : c.toNat - '0'.toNat ≤ 9 := by omega
      have later := ih fun d member => all d (List.mem_cons_of_mem c member)
      calc
        digitsValue (c :: rest) =
            (c.toNat - '0'.toNat) * 10 ^ rest.length + digitsValue rest := digitsValue_cons c rest
        _ < 9 * 10 ^ rest.length + 10 ^ rest.length :=
          Nat.add_lt_add_of_le_of_lt (Nat.mul_le_mul_right _ bound) later
        _ = 10 ^ (c :: rest).length := by
          rw [List.length_cons, Nat.pow_succ', ← Nat.succ_mul]

theorem toNat_sub_inj_of_isDigit {c d : Char} (digit : c.isDigit) (digitToo : d.isDigit)
    (same : c.toNat - '0'.toNat = d.toNat - '0'.toNat) : c = d := by
  have bounds := bounds_of_isDigit digit
  have boundsToo := bounds_of_isDigit digitToo
  have zero : '0'.toNat = 48 := rfl
  exact Char.toNat_inj.mp (by omega)

theorem digitsValue_inj {first second : List Char} (all : ∀ c ∈ first, c.isDigit)
    (allToo : ∀ c ∈ second, c.isDigit) (long : first.length = second.length)
    (same : digitsValue first = digitsValue second) : first = second := by
  induction first generalizing second with
  | nil => exact (List.length_eq_zero_iff.mp long.symm).symm
  | cons c rest ih =>
      obtain ⟨d, later, rfl⟩ := List.exists_cons_of_length_eq_add_one long.symm
      obtain ⟨digit, digits⟩ := List.forall_mem_cons.mp all
      obtain ⟨digitToo, digitsToo⟩ := List.forall_mem_cons.mp allToo
      have tails : rest.length = later.length := Nat.succ.inj long
      have low := digitsValue_lt digits
      have lowToo := digitsValue_lt digitsToo
      rw [← tails] at lowToo
      rw [digitsValue_cons, digitsValue_cons, ← tails] at same
      -- What the other digits stand for is less than one of the first place.
      have heads : c.toNat - '0'.toNat = d.toNat - '0'.toNat := by
        have quotients := congrArg (· / 10 ^ rest.length) same
        have positive : 0 < 10 ^ rest.length := Nat.pow_pos (by decide)
        simpa only [Nat.mul_comm _ (10 ^ rest.length), Nat.mul_add_div positive,
          Nat.div_eq_of_lt low, Nat.div_eq_of_lt lowToo, Nat.add_zero] using quotients
      rw [heads] at same
      rw [toNat_sub_inj_of_isDigit digit digitToo heads,
        ih digits digitsToo tails (Nat.add_left_cancel same)]

def paddedDigits (width part : Nat) : List Char :=
  List.replicate (width - (Nat.toDigits 10 part).length) '0' ++ Nat.toDigits 10 part

theorem digitsValue_paddedDigits (width part : Nat) :
    digitsValue (paddedDigits width part) = part := by
  rw [paddedDigits, digitsValue_append, digitsValue_zeros, Nat.zero_mul, Nat.zero_add,
    digitsValue_toDigits]

theorem length_paddedDigits {width part : Nat} (positive : 0 < width) (inside : part < 10 ^ width) :
    (paddedDigits width part).length = width := by
  have short : (Nat.toDigits 10 part).length ≤ width :=
    (Nat.length_toDigits_le_iff (by decide) positive).mpr inside
  rw [paddedDigits, List.length_append, List.length_replicate]
  omega

theorem isDigit_of_mem_paddedDigits (width part : Nat) :
    ∀ c ∈ paddedDigits width part, c.isDigit := by
  intro c member
  rcases List.mem_append.mp member with zero | digit
  · rw [(List.mem_replicate.mp zero).2]
    rfl
  · exact isDigit_of_mem_toDigits part c digit

theorem paddedDigits_eq (width part : Nat) : ∃ zeros, paddedDigits width part =
    fractionDigits width part ++ List.replicate zeros '0' := by
  have zeros : (paddedDigits width part).rtakeWhile (· == '0') =
      List.replicate ((paddedDigits width part).rtakeWhile (· == '0')).length '0' := by
    apply List.eq_replicate_of_mem
    intro c member
    simpa using List.mem_rtakeWhile_imp member
  refine ⟨((paddedDigits width part).rtakeWhile (· == '0')).length, ?_⟩
  rw [← zeros]
  exact List.rdropWhile_append_rtakeWhile.symm

theorem isDigit_of_mem_fractionDigits (width part : Nat) :
    ∀ c ∈ fractionDigits width part, c.isDigit := by
  obtain ⟨zeros, parts⟩ := paddedDigits_eq width part
  intro c member
  apply isDigit_of_mem_paddedDigits width part
  rw [parts]
  exact List.mem_append_left _ member

theorem getLast?_fractionDigits (width part : Nat) :
    (fractionDigits width part).getLast? ≠ some '0' := by
  intro zero
  have given : fractionDigits width part ≠ [] := by
    intro empty
    rw [empty] at zero
    cases zero
  rw [List.getLast?_eq_some_getLast given, Option.some_inj] at zero
  exact List.rdropWhile_last_not (· == '0') (paddedDigits width part) given (beq_iff_eq.mpr zero)

theorem fractionDigits_of_paddedDigits {width part zeros : Nat} {digits : List Char}
    (trimmed : digits.getLast? ≠ some '0')
    (parts : paddedDigits width part = digits ++ List.replicate zeros '0') :
    fractionDigits width part = digits := by
  have cut : ∀ c ∈ List.replicate zeros '0', (c == '0') = true := by
    intro c member
    rw [(List.mem_replicate.mp member).2]
    rfl
  change ((paddedDigits width part).reverse.dropWhile (· == '0')).reverse = digits
  rw [← List.head?_reverse] at trimmed
  rw [parts, List.reverse_append, List.reverse_replicate, List.dropWhile_append_of_pos cut,
    List.dropWhile_beq_eq_self_of_head?_ne trimmed, List.reverse_reverse]

theorem fractionDigits_zero (width : Nat) : fractionDigits width 0 = [] := by
  have zeros : paddedDigits width 0 = [] ++ List.replicate (width - 1 + 1) '0' := by
    rw [List.replicate_succ', List.nil_append]
    rfl
  exact fractionDigits_of_paddedDigits (by decide) zeros

theorem fractionDigits_parts {width part : Nat} (inside : part < 10 ^ width) :
    (fractionDigits width part).length ≤ width ∧
      digitsValue (fractionDigits width part) *
        10 ^ (width - (fractionDigits width part).length) = part := by
  rcases Nat.eq_zero_or_pos width with rfl | positive
  · have none : part = 0 := Nat.lt_one_iff.mp inside
    subst none
    decide
  · obtain ⟨zeros, parts⟩ := paddedDigits_eq width part
    have length := length_paddedDigits positive inside
    have value := digitsValue_paddedDigits width part
    rw [parts, List.length_append, List.length_replicate] at length
    rw [parts, digitsValue_append, digitsValue_zeros, List.length_replicate, Nat.add_zero] at value
    have count : width - (fractionDigits width part).length = zeros := by omega
    rw [count]
    exact ⟨by omega, value⟩

/-- A unit of `10 ^ width` nanoseconds takes back the digits that were written of a part. -/
theorem fractionNanoseconds_fractionDigits {unit : TimeUnit} {width part : Nat}
    (scale : unit.nanoseconds = 10 ^ width) (narrow : width ≤ fractionPlaces)
    (inside : part < 10 ^ width) :
    fractionNanoseconds (fractionDigits width part) unit = part := by
  obtain ⟨short, value⟩ := fractionDigits_parts inside
  have kept : (fractionDigits width part).take fractionPlaces = fractionDigits width part :=
    List.take_of_length_le (Nat.le_trans short narrow)
  calc
    fractionNanoseconds (fractionDigits width part) unit =
        digitsValue (fractionDigits width part) * 10 ^ width /
          10 ^ (fractionDigits width part).length := by
      rw [fractionNanoseconds, kept, scale]
    _ = digitsValue (fractionDigits width part) *
          10 ^ (width - (fractionDigits width part).length) *
          10 ^ (fractionDigits width part).length / 10 ^ (fractionDigits width part).length := by
      rw [Nat.mul_assoc, ← Nat.pow_add, Nat.sub_add_cancel short]
    _ = part := by
      rw [Nat.mul_div_cancel _ (Nat.pow_pos (by decide)), value]

end FederationConfig.Duration
