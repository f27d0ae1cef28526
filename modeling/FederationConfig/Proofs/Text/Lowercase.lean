import FederationConfig.Text.Lowercase
import Mathlib.Data.String.Basic

namespace FederationConfig.Text

def kelvinSign : Char := '\u212a'

/-- Lower case of ASCII, to which the Kelvin sign belongs here. -/
def plainLower (c : Char) : Char := if c = kelvinSign then 'k' else c.toLower

def HasPlainLower (c : Char) : Prop := c.toNat < 128 ∨ c = kelvinSign

theorem runs_beyond_ascii : ∀ run ∈ lowercaseRuns,
    run.last < 128 ∨ run.first = 0x212a ∧ run.last = 0x212a ∨
      128 ≤ (run.first : Int) + run.shift := by
  decide +kernel

theorem lowercaseChar_ascii (c : Char) (small : c.toNat < 128) : lowercaseChar c = [c.toLower] := by
  have all : ∀ n : Fin 128, lowercaseChar (Char.ofNat n) = [(Char.ofNat n).toLower] := by
    decide +kernel
  have own := all ⟨c.toNat, small⟩
  rwa [Char.ofNat_toNat] at own

theorem lowercaseChar_of_hasPlainLower {c : Char} (plain : HasPlainLower c) :
    lowercaseChar c = [plainLower c] := by
  rcases plain with small | rfl
  · have other : c ≠ kelvinSign := by
      rintro rfl
      exact absurd small (by decide)
    rw [lowercaseChar_ascii c small, plainLower, if_neg other]
  · decide +kernel

theorem lowercase_eq_map {cs : List Char} (plain : ∀ c ∈ cs, HasPlainLower c) :
    lowercase cs = cs.map plainLower := by
  induction cs with
  | nil => rfl
  | cons c rest ih =>
      obtain ⟨first, later⟩ := List.forall_mem_cons.mp plain
      have behind := ih later
      rw [lowercase] at behind ⊢
      rw [List.flatMap_cons, lowercaseChar_of_hasPlainLower first, behind]
      rfl

theorem toNat_ofNat_eq_or (n : Nat) : (Char.ofNat n).toNat = n ∨ (Char.ofNat n).toNat = 0 := by
  by_cases valid : n.isValidChar
  · left
    rw [Char.ofNat, dif_pos valid]
    rfl
  · right
    rw [Char.ofNat, dif_neg valid]
    rfl

/-- A character outside every run that leads into ASCII keeps out of it. -/
theorem hasPlainLower_of_lowercaseChar {c : Char}
    (ascii : ∀ d ∈ lowercaseChar c, 0 < d.toNat ∧ d.toNat < 128) : HasPlainLower c := by
  by_cases dotted : c = '\u0130'
  · subst dotted
    exact absurd (ascii '\u0307' (by decide)).2 (by decide)
  · rw [lowercaseChar, if_neg dotted] at ascii
    split at ascii
    case h_1 run found =>
      have covered : run.covers c.toNat := by simpa using List.find?_some found
      simp only [CaseRun.covers, Bool.and_eq_true, decide_eq_true_eq] at covered
      rcases runs_beyond_ascii run (List.mem_of_find?_eq_some found) with low | kelvin | beyond
      · exact .inl (Nat.lt_of_le_of_lt covered.1.2 low)
      · right
        have point : c.toNat = kelvinSign.toNat := by
          show c.toNat = 0x212a
          omega
        rw [← Char.ofNat_toNat c, point, Char.ofNat_toNat]
      · have bounds := ascii _ List.mem_cons_self
        rcases toNat_ofNat_eq_or (c.toNat + run.shift).toNat with same | none
        · rw [same] at bounds
          omega
        · exact absurd none (Nat.ne_of_gt bounds.1)
    case h_2 absent => exact .inl (ascii c List.mem_cons_self).2

theorem hasPlainLower_of_lowercase {cs : List Char}
    (ascii : ∀ d ∈ lowercase cs, 0 < d.toNat ∧ d.toNat < 128) : ∀ c ∈ cs, HasPlainLower c := by
  intro c member
  apply hasPlainLower_of_lowercaseChar
  intro d inside
  exact ascii d (List.mem_flatMap.mpr ⟨c, member, inside⟩)

theorem utf8Size_of_small {c : Char} (small : c.toNat < 128) : c.utf8Size = 1 :=
  Char.utf8Size_eq_one_iff.mpr (UInt32.le_iff_toNat_le.mpr (Nat.le_of_lt_succ small))

theorem toNat_plainLower {c : Char} (plain : HasPlainLower c) : (plainLower c).toNat < 128 := by
  have all : ∀ n : Fin 128, (Char.ofNat n).toLower.toNat < 128 := by decide +kernel
  rw [plainLower]
  split
  · decide
  case isFalse other =>
    have own := all ⟨c.toNat, plain.resolve_right other⟩
    rwa [Char.ofNat_toNat] at own

theorem utf8Len_map_plainLower {cs : List Char} (plain : ∀ c ∈ cs, HasPlainLower c) :
    String.utf8Len cs = String.utf8Len (cs.map plainLower) + 2 * cs.count kelvinSign := by
  induction cs with
  | nil => rfl
  | cons c rest ih =>
      obtain ⟨first, later⟩ := List.forall_mem_cons.mp plain
      have lower := utf8Size_of_small (toNat_plainLower first)
      rw [List.map_cons, String.utf8Len_cons, String.utf8Len_cons, ih later, lower]
      rcases first with small | rfl
      · have other : c ≠ kelvinSign := by
          rintro rfl
          exact absurd small (by decide)
        rw [utf8Size_of_small small, List.count_cons_of_ne other]
        omega
      · have size : kelvinSign.utf8Size = 3 := by decide
        rw [size, List.count_cons_self]
        omega

end FederationConfig.Text
