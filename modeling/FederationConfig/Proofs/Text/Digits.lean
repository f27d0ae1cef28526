namespace FederationConfig.Text

theorem digitChar_inj {m n : Nat} (small : m < 16) (smallToo : n < 16)
    (same : m.digitChar = n.digitChar) : m = n := by
  have all : ∀ a b : Fin 16, a.val.digitChar = b.val.digitChar → a = b := by decide
  exact congrArg Fin.val (all ⟨m, small⟩ ⟨n, smallToo⟩ same)

theorem toDigits_of_large {n : Nat} (large : ¬ n < 16) :
    Nat.toDigits 16 n = Nat.toDigits 16 (n / 16) ++ [(n % 16).digitChar] :=
  Nat.toDigits_of_base_le (by decide) (Nat.le_of_not_lt large)

theorem toDigits_ne_of_small_of_large {m n : Nat} (small : m < 16) (large : ¬ n < 16) :
    Nat.toDigits 16 m ≠ Nat.toDigits 16 n := by
  rw [Nat.toDigits_of_lt_base small, toDigits_of_large large]
  intro same
  rcases List.singleton_eq_append_iff.mp same with ⟨empty, _⟩ | ⟨_, empty⟩
  · exact Nat.toDigits_ne_nil empty
  · exact List.cons_ne_nil _ _ empty

theorem toDigits_sixteen_inj {m n : Nat} (same : Nat.toDigits 16 m = Nat.toDigits 16 n) :
    m = n := by
  induction m using Nat.strongRecOn generalizing n with
  | ind m ih =>
      by_cases small : m < 16 <;> by_cases smallToo : n < 16
      · rw [Nat.toDigits_of_lt_base small, Nat.toDigits_of_lt_base smallToo] at same
        exact digitChar_inj small smallToo (List.singleton_inj.mp same)
      · exact absurd same (toDigits_ne_of_small_of_large small smallToo)
      · exact absurd same.symm (toDigits_ne_of_small_of_large smallToo small)
      · rw [toDigits_of_large small, toDigits_of_large smallToo] at same
        obtain ⟨front, last⟩ := List.append_inj' same rfl
        have quotients : m / 16 = n / 16 := ih (m / 16) (by omega) front
        have remainders : m % 16 = n % 16 :=
          digitChar_inj (Nat.mod_lt m (by decide)) (Nat.mod_lt n (by decide))
            (List.singleton_inj.mp last)
        omega

theorem exists_digitChar_of_mem_toDigits {c : Char} {n : Nat} (member : c ∈ Nat.toDigits 16 n) :
    ∃ digit : Fin 16, c = digit.val.digitChar := by
  induction n using Nat.strongRecOn with
  | ind n ih =>
      by_cases small : n < 16
      · rw [Nat.toDigits_of_lt_base small] at member
        exact ⟨⟨n, small⟩, List.mem_singleton.mp member⟩
      · rw [toDigits_of_large small] at member
        rcases List.mem_append.mp member with front | last
        · exact ih (n / 16) (by omega) front
        · exact ⟨⟨n % 16, Nat.mod_lt n (by decide)⟩, List.mem_singleton.mp last⟩

theorem bounds_of_isDigit {c : Char} (digit : c.isDigit) : 48 ≤ c.toNat ∧ c.toNat ≤ 57 := by
  simpa [Char.isDigit, UInt32.le_iff_toNat_le] using digit

theorem isDigit_of_mem_toDigits (n : Nat) : ∀ c ∈ Nat.toDigits 10 n, c.isDigit :=
  fun _ member => Nat.isDigit_of_mem_toDigits (by decide) (by decide) member

theorem toDigits_ten_inj {m n : Nat} (same : Nat.toDigits 10 m = Nat.toDigits 10 n) : m = n :=
  calc
    m = Nat.ofDigitChars 10 (Nat.toDigits 10 m) 0 := Nat.ofDigitChars_ten_toDigits.symm
    _ = Nat.ofDigitChars 10 (Nat.toDigits 10 n) 0 := by rw [same]
    _ = n := Nat.ofDigitChars_ten_toDigits

theorem toList_repr_of_nonneg {value : Int} (positive : 0 ≤ value) :
    value.repr.toList = Nat.toDigits 10 value.natAbs := by
  have size : value.toNat = value.natAbs := by omega
  rw [Int.repr_eq_if, if_pos positive, Nat.toList_repr, size]

theorem toList_repr_of_neg {value : Int} (negative : value < 0) :
    value.repr.toList = '-' :: Nat.toDigits 10 value.natAbs := by
  have size : (-value).toNat = value.natAbs := by omega
  rw [Int.repr_eq_if, if_neg (Int.not_le.mpr negative), String.toList_append, Nat.toList_repr, size]
  rfl

theorem minus_not_mem_toDigits (n : Nat) : '-' ∉ Nat.toDigits 10 n :=
  fun member => nomatch isDigit_of_mem_toDigits n '-' member

theorem repr_int_inj {first second : Int} (same : first.repr.toList = second.repr.toList) :
    first = second := by
  by_cases negative : first < 0 <;> by_cases negativeToo : second < 0
  · rw [toList_repr_of_neg negative, toList_repr_of_neg negativeToo] at same
    have sizes := toDigits_ten_inj (List.cons.inj same).2
    omega
  · rw [toList_repr_of_neg negative, toList_repr_of_nonneg (by omega)] at same
    exact absurd (same ▸ List.mem_cons_self) (minus_not_mem_toDigits second.natAbs)
  · rw [toList_repr_of_nonneg (by omega), toList_repr_of_neg negativeToo] at same
    exact absurd (same ▸ List.mem_cons_self) (minus_not_mem_toDigits first.natAbs)
  · rw [toList_repr_of_nonneg (by omega), toList_repr_of_nonneg (by omega)] at same
    have sizes := toDigits_ten_inj same
    omega

theorem digit_or_minus_of_mem_repr {c : Char} {value : Int} (member : c ∈ value.repr.toList) :
    c.isDigit ∨ c = '-' := by
  by_cases negative : value < 0
  · rw [toList_repr_of_neg negative] at member
    rcases List.mem_cons.mp member with sign | digit
    · exact .inr sign
    · exact .inl (isDigit_of_mem_toDigits _ c digit)
  · rw [toList_repr_of_nonneg (by omega)] at member
    exact .inl (isDigit_of_mem_toDigits _ c member)

end FederationConfig.Text
