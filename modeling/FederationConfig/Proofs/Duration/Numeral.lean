import FederationConfig.Proofs.Duration.Digits

namespace FederationConfig.Duration

open Text (isDigit_of_mem_toDigits bounds_of_isDigit)

theorem toDigits_of_isDigit {c : Char} (digit : c.isDigit) :
    Nat.toDigits 10 (c.toNat - '0'.toNat) = [c] := by
  have bounds := bounds_of_isDigit digit
  have zero : '0'.toNat = 48 := rfl
  have small : c.toNat - '0'.toNat < 10 := by omega
  have code : (c.toNat - '0'.toNat).digitChar.toNat = c.toNat := by
    rw [Nat.toNat_digitChar_of_lt_ten small]
    omega
  rw [Nat.toDigits_of_lt_base small, Char.toNat_inj.mp code]

theorem toDigits_append {n : Nat} (positive : 0 < n) {digits : List Char}
    (all : ∀ c ∈ digits, c.isDigit) :
    Nat.toDigits 10 n ++ digits = Nat.toDigits 10 (Nat.ofDigitChars 10 digits n) := by
  induction digits generalizing n with
  | nil => rw [List.append_nil, Nat.ofDigitChars_nil]
  | cons c rest ih =>
      obtain ⟨digit, later⟩ := List.forall_mem_cons.mp all
      have bounds := bounds_of_isDigit digit
      have zero : '0'.toNat = 48 := rfl
      have small : c.toNat - '0'.toNat < 10 := by omega
      have grown : 0 < 10 * n + (c.toNat - '0'.toNat) := by omega
      calc
        Nat.toDigits 10 n ++ c :: rest =
            Nat.toDigits 10 n ++ Nat.toDigits 10 (c.toNat - '0'.toNat) ++ rest := by
          rw [toDigits_of_isDigit digit, List.append_assoc, List.singleton_append]
        _ = Nat.toDigits 10 (10 * n + (c.toNat - '0'.toNat)) ++ rest := by
          rw [Nat.toDigits_append_toDigits (by decide) positive small]
        _ = Nat.toDigits 10 (Nat.ofDigitChars 10 (c :: rest) n) := by
          rw [ih grown later, Nat.ofDigitChars_cons]

theorem eq_zero_of_head?_toDigits {n : Nat} (zero : (Nat.toDigits 10 n).head? = some '0') :
    n = 0 := by
  induction n using Nat.strongRecOn with
  | ind n ih =>
      by_cases small : n < 10
      · rw [Nat.toDigits_of_lt_base small, List.head?_cons, Option.some_inj] at zero
        exact Nat.digitChar_eq_zero.mp zero
      · rw [Nat.toDigits_of_base_le (by decide) (Nat.le_of_not_lt small),
          List.head?_append_of_ne_nil _ Nat.toDigits_ne_nil] at zero
        have front := ih (n / 10) (by omega) zero
        omega

/-- A number in digits. The first one is a zero only if it is alone. -/
structure Numeral where
  digits : List Char
  given : digits ≠ []
  isDigit : ∀ c ∈ digits, c.isDigit
  plain : digits.head? = some '0' → digits = ['0']

namespace Numeral

def value (numeral : Numeral) : Nat := digitsValue numeral.digits

def ofNat (n : Nat) : Numeral where
  digits := Nat.toDigits 10 n
  given := Nat.toDigits_ne_nil
  isDigit := isDigit_of_mem_toDigits n
  plain zero := by rw [eq_zero_of_head?_toDigits zero, Nat.toDigits_zero]

theorem value_ofNat (n : Nat) : (ofNat n).value = n := digitsValue_toDigits n

end Numeral

theorem Numeral.toDigits_value (numeral : Numeral) :
    Nat.toDigits 10 numeral.value = numeral.digits := by
  obtain ⟨digits, given, all, plain⟩ := numeral
  obtain ⟨c, rest, rfl⟩ := List.exists_cons_of_ne_nil given
  obtain ⟨digit, later⟩ := List.forall_mem_cons.mp all
  by_cases leading : c = '0'
  · have alone : c :: rest = ['0'] := plain (congrArg some leading)
    simp only [value, alone]
    rfl
  · have positive : 0 < c.toNat - '0'.toNat := by
      refine Nat.pos_of_ne_zero fun none => leading ?_
      exact toNat_sub_inj_of_isDigit digit rfl none
    have size : digitsValue (c :: rest) = Nat.ofDigitChars 10 rest (c.toNat - '0'.toNat) := by
      rw [digitsValue, Nat.ofDigitChars_cons, Nat.mul_zero, Nat.zero_add]
    rw [value, size, ← toDigits_append positive later, toDigits_of_isDigit digit]
    rfl

/-- The digits behind the point, so many at most and the last one not a zero. -/
structure Places (width : Nat) where
  digits : List Char
  isDigit : ∀ c ∈ digits, c.isDigit
  short : digits.length ≤ width
  trimmed : digits.getLast? ≠ some '0'

namespace Places

variable {width : Nat}

def value (places : Places width) : Nat :=
  digitsValue places.digits * 10 ^ (width - places.digits.length)

def text (places : Places width) : List Char :=
  if places.digits = [] then [] else '.' :: places.digits

theorem value_lt (places : Places width) : places.value < 10 ^ width :=
  calc
    places.value < 10 ^ places.digits.length * 10 ^ (width - places.digits.length) :=
      Nat.mul_lt_mul_of_pos_right (digitsValue_lt places.isDigit) (Nat.pow_pos (by decide))
    _ = 10 ^ width := by rw [← Nat.pow_add, Nat.add_sub_cancel' places.short]

def ofPart (part : Fin (10 ^ width)) : Places width where
  digits := fractionDigits width part
  isDigit := isDigit_of_mem_fractionDigits width part
  short := (fractionDigits_parts part.isLt).1
  trimmed := getLast?_fractionDigits width part

theorem value_ofPart (part : Fin (10 ^ width)) : (ofPart part).value = part :=
  (fractionDigits_parts part.isLt).2

theorem value_of_digits_eq_nil (places : Places width) (none : places.digits = []) :
    places.value = 0 := by
  rw [value, none]
  exact Nat.zero_mul _

theorem paddedDigits_value (places : Places width) (some : places.digits ≠ []) :
    paddedDigits width places.value =
      places.digits ++ List.replicate (width - places.digits.length) '0' := by
  have positive : 0 < width := Nat.lt_of_lt_of_le (List.length_pos_iff.mpr some) places.short
  apply digitsValue_inj (isDigit_of_mem_paddedDigits width _)
  · intro c member
    rcases List.mem_append.mp member with digit | zero
    · exact places.isDigit c digit
    · rw [(List.mem_replicate.mp zero).2]
      rfl
  · rw [length_paddedDigits positive places.value_lt, List.length_append, List.length_replicate,
      Nat.add_sub_cancel' places.short]
  · rw [digitsValue_paddedDigits, digitsValue_append, digitsValue_zeros, List.length_replicate,
      Nat.add_zero, value]

theorem fractionDigits_value (places : Places width) :
    fractionDigits width places.value = places.digits := by
  by_cases none : places.digits = []
  · rw [value_of_digits_eq_nil places none, none, fractionDigits_zero]
  · exact fractionDigits_of_paddedDigits places.trimmed (places.paddedDigits_value none)

theorem value_eq_zero_iff (places : Places width) : places.value = 0 ↔ places.digits = [] := by
  constructor
  · intro zero
    rw [← places.fractionDigits_value, zero, fractionDigits_zero]
  · exact places.value_of_digits_eq_nil

end Places

structure Scaled (width : Nat) where
  whole : Numeral
  places : Places width

namespace Scaled

variable {width : Nat}

def text (scaled : Scaled width) : List Char := scaled.whole.digits ++ scaled.places.text

def value (scaled : Scaled width) : Nat :=
  scaled.whole.value * 10 ^ width + scaled.places.value

theorem value_div (scaled : Scaled width) : scaled.value / 10 ^ width = scaled.whole.value := by
  rw [value, Nat.mul_comm, Nat.mul_add_div (Nat.pow_pos (by decide)),
    Nat.div_eq_of_lt scaled.places.value_lt, Nat.add_zero]

theorem value_mod (scaled : Scaled width) : scaled.value % 10 ^ width = scaled.places.value := by
  rw [value, Nat.mul_comm, Nat.mul_add_mod, Nat.mod_eq_of_lt scaled.places.value_lt]

theorem le_value {scaled : Scaled width} (least : 1 ≤ scaled.whole.value) :
    10 ^ width ≤ scaled.value :=
  Nat.le_add_right_of_le (Nat.le_mul_of_pos_left _ least)

theorem value_pos {scaled : Scaled width} (least : 1 ≤ scaled.whole.value) : 0 < scaled.value :=
  Nat.lt_of_lt_of_le (Nat.pow_pos (by decide)) (le_value least)

theorem value_lt {bound : Nat} {scaled : Scaled width} (most : scaled.whole.value ≤ bound) :
    scaled.value < (bound + 1) * 10 ^ width :=
  calc
    scaled.value < scaled.whole.value * 10 ^ width + 10 ^ width :=
      Nat.add_lt_add_left scaled.places.value_lt _
    _ = (scaled.whole.value + 1) * 10 ^ width := (Nat.succ_mul _ _).symm
    _ ≤ (bound + 1) * 10 ^ width := Nat.mul_le_mul_right _ (Nat.succ_le_succ most)

theorem renderScaled_value (scaled : Scaled width) :
    renderScaled scaled.value width = scaled.text := by
  simp only [renderScaled, scaled.value_div, scaled.value_mod, scaled.whole.toDigits_value,
    scaled.places.fractionDigits_value, scaled.places.value_eq_zero_iff, text, Places.text]
  split
  · rw [List.append_nil]
  · rfl

def ofNat (width value : Nat) : Scaled width where
  whole := .ofNat (value / 10 ^ width)
  places := .ofPart ⟨value % 10 ^ width, Nat.mod_lt _ (Nat.pow_pos (by decide))⟩

theorem value_ofNat (width value : Nat) : (ofNat width value).value = value := by
  rw [Scaled.value, ofNat, Numeral.value_ofNat, Places.value_ofPart]
  exact Nat.div_add_mod' value (10 ^ width)

end Scaled

end FederationConfig.Duration
