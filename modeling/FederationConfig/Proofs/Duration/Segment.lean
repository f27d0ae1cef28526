import FederationConfig.Duration.Reading
import FederationConfig.Proofs.Text.Delimiter
import Mathlib.Data.List.TakeWhile

namespace FederationConfig.Duration

open Text (Stops takeWhile_append_stops dropWhile_append_stops)

theorem isDigit_eq_false_of_isUnitChar {c : Char} (unit : isUnitChar c) : c.isDigit = false := by
  simp only [isUnitChar, Bool.and_eq_true, Bool.not_eq_true'] at unit
  exact unit.2

theorem ne_point_of_isUnitChar {c : Char} (unit : isUnitChar c) : c ≠ '.' := by
  simp only [isUnitChar, Bool.and_eq_true, bne_iff_ne] at unit
  exact unit.1

def IsPoint (point fraction : List Char) : Prop :=
  point = ['.'] ∨ point = [] ∧ fraction = []

theorem cutFraction_append {point fraction unit rest : List Char}
    (pointed : IsPoint point fraction) (digits : ∀ c ∈ fraction, c.isDigit)
    (given : unit ≠ []) (unitChars : ∀ c ∈ unit, isUnitChar c) :
    cutFraction (point ++ fraction ++ (unit ++ rest)) = (fraction, unit ++ rest) := by
  obtain ⟨c, others, rfl⟩ := List.exists_cons_of_ne_nil given
  have first : isUnitChar c := unitChars c List.mem_cons_self
  have stops : Stops Char.isDigit (c :: others ++ rest) := by
    intro head found
    cases found
    exact isDigit_eq_false_of_isUnitChar first
  rcases pointed with rfl | ⟨rfl, rfl⟩
  · rw [List.singleton_append, List.cons_append, cutFraction,
      takeWhile_append_stops digits stops, dropWhile_append_stops digits stops]
  · rw [List.nil_append, List.nil_append, cutFraction]
    intro tail same
    exact ne_point_of_isUnitChar first (List.cons.inj same).1

theorem Segment.cut_append {whole point fraction unit rest : List Char}
    (wholeDigits : ∀ c ∈ whole, c.isDigit) (pointed : IsPoint point fraction)
    (digits : ∀ c ∈ fraction, c.isDigit) (given : unit ≠ [])
    (unitChars : ∀ c ∈ unit, isUnitChar c) (stops : Stops isUnitChar rest) :
    Segment.cut (whole ++ (point ++ fraction ++ (unit ++ rest))) =
      (⟨whole, fraction, unit⟩, rest) := by
  have wholeStops : Stops Char.isDigit (point ++ fraction ++ (unit ++ rest)) := by
    intro head found
    rcases pointed with rfl | ⟨rfl, rfl⟩
    · cases found
      rfl
    · obtain ⟨c, others, rfl⟩ := List.exists_cons_of_ne_nil given
      have first : isUnitChar c := unitChars c List.mem_cons_self
      cases found
      exact isDigit_eq_false_of_isUnitChar first
  simp only [Segment.cut, takeWhile_append_stops wholeDigits wholeStops,
    dropWhile_append_stops wholeDigits wholeStops,
    cutFraction_append pointed digits given unitChars,
    takeWhile_append_stops unitChars stops, dropWhile_append_stops unitChars stops]

theorem sumSegments_nil (total : Nat) : sumSegments [] total = .ok total := by
  rw [sumSegments, if_pos rfl]

theorem sumSegments_cut {cs : List Char} {amount : Nat}
    (known : (Segment.cut cs).1.amount = .ok amount) (total : Nat) :
    sumSegments cs total =
      if greatestMagnitude < total + amount then .error .overflow
      else sumSegments (Segment.cut cs).2 (total + amount) := by
  have text : cs ≠ [] := by
    rintro rfl
    cases known
  rw [sumSegments, if_neg text]
  split
  case h_1 fault unknown =>
    rw [known] at unknown
    cases unknown
  case h_2 nanoseconds same =>
    rw [known] at same
    cases same
    rfl

theorem sumSegments_of_fault {cs : List Char} {fault : Fault} (text : cs ≠ [])
    (failed : (Segment.cut cs).1.amount = .error fault) (total : Nat) :
    sumSegments cs total = .error fault := by
  rw [sumSegments, if_neg text]
  split
  case h_1 other same =>
    rw [failed] at same
    exact same.symm
  case h_2 nanoseconds known =>
    rw [failed] at known
    cases known

theorem Segment.isDigit_of_mem_cut (cs : List Char) :
    (∀ c ∈ (Segment.cut cs).1.whole, c.isDigit) ∧ ∀ c ∈ (Segment.cut cs).1.fraction, c.isDigit := by
  refine ⟨fun _ member => List.mem_takeWhile_imp member, ?_⟩
  show ∀ c ∈ (cutFraction (cs.dropWhile Char.isDigit)).1, c.isDigit
  unfold cutFraction
  split
  · exact fun _ member => List.mem_takeWhile_imp member
  · exact fun _ member => nomatch member

theorem sumSegments_le {cs : List Char} {total sum : Nat} (start : total ≤ greatestMagnitude)
    (summed : sumSegments cs total = .ok sum) : sum ≤ greatestMagnitude := by
  fun_induction sumSegments cs total with
  | case1 => cases summed; exact start
  | case2 => cases summed
  | case3 => cases summed
  | case4 cs total text nanoseconds known inside ih => exact ih (Nat.le_of_not_lt inside) summed

/-- A text made of segments of known units, and the sum of what they amount to. -/
inductive Reads : List Char → Nat → Prop where
  | none : Reads [] 0
  | segment {cs rest : List Char} {segment : Segment} {amount later : Nat}
      (cut : Segment.cut cs = (segment, rest)) (known : segment.amount = .ok amount)
      (reads : Reads rest later) : Reads cs (amount + later)

/-- The whole sum decides about the range: the sums on the way to it are not greater. -/
theorem Reads.sumSegments_eq {cs : List Char} {amount : Nat} (reads : Reads cs amount)
    {total : Nat} (start : total ≤ greatestMagnitude) :
    sumSegments cs total =
      if greatestMagnitude < total + amount then .error .overflow else .ok (total + amount) := by
  induction reads generalizing total with
  | none => rw [sumSegments_nil, Nat.add_zero, if_neg (Nat.not_lt.mpr start)]
  | @segment cs rest segment amount later cut known reads ih =>
      have first : (Segment.cut cs).1.amount = .ok amount := by rw [cut]; exact known
      rw [sumSegments_cut first, cut]
      by_cases far : greatestMagnitude < total + amount
      · rw [if_pos far, if_pos (by omega)]
      · rw [if_neg far, ih (Nat.le_of_not_lt far), Nat.add_assoc]

theorem Segment.text_ne_nil {cs rest : List Char} {segment : Segment} {amount : Nat}
    (cut : Segment.cut cs = (segment, rest)) (known : segment.amount = .ok amount) : cs ≠ [] := by
  rintro rfl
  cases cut
  cases known

theorem Reads.unique {cs : List Char} {amount other : Nat} (reads : Reads cs amount)
    (otherwise : Reads cs other) : amount = other := by
  induction reads generalizing other with
  | none =>
      cases otherwise with
      | none => rfl
      | segment cut known => exact absurd rfl (Segment.text_ne_nil cut known)
  | segment cut known reads ih =>
      cases otherwise with
      | none => exact absurd rfl (Segment.text_ne_nil cut known)
      | segment otherCut otherKnown otherReads =>
          obtain ⟨rfl, rfl⟩ := Prod.mk.inj (cut.symm.trans otherCut)
          have same := Except.ok.inj (known.symm.trans otherKnown)
          rw [same, ih otherReads]

theorem reads_of_sumSegments {cs : List Char} {total sum : Nat}
    (summed : sumSegments cs total = .ok sum) :
    ∃ amount, Reads cs amount ∧ sum = total + amount := by
  fun_induction sumSegments cs total with
  | case1 total =>
      cases summed
      exact ⟨0, .none, rfl⟩
  | case2 => cases summed
  | case3 => cases summed
  | case4 cs total text nanoseconds known inside ih =>
      obtain ⟨later, reads, rfl⟩ := ih summed
      exact ⟨nanoseconds + later, .segment rfl known reads, Nat.add_assoc ..⟩

end FederationConfig.Duration
