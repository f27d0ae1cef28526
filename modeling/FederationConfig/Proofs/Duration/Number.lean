import FederationConfig.Proofs.Duration.Segment

namespace FederationConfig.Duration

open Text (Stops stops_cons stops_dropWhile takeWhile_eq_nil_iff takeWhile_append_stops
  dropWhile_append_stops)

structure WrittenNumber where
  whole : List Char
  fraction : Option (List Char)
  wholeDigits : ∀ c ∈ whole, c.isDigit
  fractionDigits : ∀ digits ∈ fraction, ∀ c ∈ digits, c.isDigit
  given : whole ≠ [] ∨ ∃ digits ∈ fraction, digits ≠ []

namespace WrittenNumber

def fractionText (number : WrittenNumber) : List Char := number.fraction.elim [] ('.' :: ·)

def text (number : WrittenNumber) : List Char := number.whole ++ number.fractionText

/-- The number goes on as far as it can. -/
structure Ends (number : WrittenNumber) (rest : List Char) : Prop where
  noDigit : Stops Char.isDigit rest
  noPoint : number.fraction = none → rest.head? ≠ some '.'

variable {rest : List Char}

theorem cutFraction_text (number : WrittenNumber) (ends : number.Ends rest) :
    cutFraction (number.fractionText ++ rest) = (number.fraction.getD [], rest) := by
  unfold fractionText
  cases same : number.fraction with
  | none =>
      show cutFraction rest = ([], rest)
      rw [cutFraction]
      intro behind point
      exact ends.noPoint same (congrArg List.head? point)
  | some digits =>
      have all := number.fractionDigits digits same
      show cutFraction ('.' :: (digits ++ rest)) = (digits, rest)
      rw [cutFraction, takeWhile_append_stops all ends.noDigit,
        dropWhile_append_stops all ends.noDigit]

theorem cut_text (number : WrittenNumber) (ends : number.Ends rest) :
    Segment.cut (number.text ++ rest) =
      (⟨number.whole, number.fraction.getD [], rest.takeWhile isUnitChar⟩,
        rest.dropWhile isUnitChar) := by
  have stops : Stops Char.isDigit (number.fractionText ++ rest) := by
    unfold fractionText
    cases number.fraction with
    | none => exact ends.noDigit
    | some digits => exact stops_cons rfl _
  simp only [text, List.append_assoc, Segment.cut,
    takeWhile_append_stops number.wholeDigits stops,
    dropWhile_append_stops number.wholeDigits stops, number.cutFraction_text ends]

theorem not_empty (number : WrittenNumber) :
    ¬ (number.whole = [] ∧ number.fraction.getD [] = []) := by
  rintro ⟨noWhole, noFraction⟩
  rcases number.given with whole | ⟨digits, fraction, some⟩
  · exact whole noWhole
  · rw [fraction] at noFraction
    exact some noFraction

theorem text_append_ne_nil (number : WrittenNumber) (rest : List Char) :
    number.text ++ rest ≠ [] := by
  apply List.append_ne_nil_of_left_ne_nil
  intro empty
  obtain ⟨noWhole, noFraction⟩ := List.append_eq_nil_iff.mp empty
  rcases number.given with whole | ⟨digits, fraction, _⟩
  · exact whole noWhole
  · rw [fractionText, fraction] at noFraction
    cases noFraction

theorem ends_of_name {name : List Char} (number : WrittenNumber) (given : name ≠ [])
    (unitChars : ∀ c ∈ name, isUnitChar c) (rest : List Char) : number.Ends (name ++ rest) := by
  obtain ⟨first, others, rfl⟩ := List.exists_cons_of_ne_nil given
  have unit : isUnitChar first := unitChars first List.mem_cons_self
  constructor
  · exact stops_cons (isDigit_eq_false_of_isUnitChar unit) _
  · intro _ point
    exact ne_point_of_isUnitChar unit (Option.some.inj point)

end WrittenNumber

/-- A text in which a segment has digits begins with a number. -/
theorem Segment.exists_number (cs : List Char)
    (given : ¬ ((Segment.cut cs).1.whole = [] ∧ (Segment.cut cs).1.fraction = [])) :
    ∃ (number : WrittenNumber) (rest : List Char), cs = number.text ++ rest ∧ number.Ends rest := by
  have front := List.takeWhile_append_dropWhile (p := Char.isDigit) (l := cs)
  have digits : ∀ c ∈ cs.takeWhile Char.isDigit, c.isDigit :=
    fun _ member => List.mem_takeWhile_imp member
  have stops := stops_dropWhile Char.isDigit cs
  change ¬ (cs.takeWhile Char.isDigit = [] ∧ (cutFraction (cs.dropWhile Char.isDigit)).1 = [])
    at given
  generalize cs.takeWhile Char.isDigit = whole at *
  generalize cs.dropWhile Char.isDigit = behind at *
  subst front
  unfold cutFraction at given
  split at given
  case h_1 rest =>
    have fraction := List.takeWhile_append_dropWhile (p := Char.isDigit) (l := rest)
    refine ⟨⟨whole, some (rest.takeWhile Char.isDigit), digits, ?_, ?_⟩,
      rest.dropWhile Char.isDigit, ?_, stops_dropWhile _ _, ?_⟩
    · rintro _ ⟨⟩ c member
      exact List.mem_takeWhile_imp member
    · rw [Classical.not_and_iff_not_or_not] at given
      exact given.imp id fun some => ⟨_, rfl, some⟩
    · simp [WrittenNumber.text, WrittenNumber.fractionText, fraction]
    · intro absent
      cases absent
  case h_2 plain =>
    refine ⟨⟨whole, none, digits, (fun _ absent => nomatch absent), .inl ?_⟩, behind, ?_, stops, ?_⟩
    · intro empty
      exact given ⟨empty, rfl⟩
    · simp [WrittenNumber.text, WrittenNumber.fractionText]
    · intro _ point
      obtain ⟨rest, same⟩ := List.head?_eq_some_iff.mp point
      exact plain rest same

theorem Segment.no_digits_iff {cs : List Char} :
    (Segment.cut cs).1.whole = [] ∧ (Segment.cut cs).1.fraction = [] ↔
      Stops Char.isDigit cs ∧ ∀ rest, cs = '.' :: rest → Stops Char.isDigit rest := by
  show cs.takeWhile Char.isDigit = [] ∧ (cutFraction (cs.dropWhile Char.isDigit)).1 = [] ↔ _
  rw [takeWhile_eq_nil_iff]
  refine and_congr_right fun before => ?_
  have parts := List.takeWhile_append_dropWhile (p := Char.isDigit) (l := cs)
  rw [takeWhile_eq_nil_iff.mpr before, List.nil_append] at parts
  rw [parts]
  unfold cutFraction
  split
  case h_1 behind =>
    show behind.takeWhile Char.isDigit = [] ↔ _
    rw [takeWhile_eq_nil_iff]
    constructor
    · intro stops rest point
      cases point
      exact stops
    · intro later
      exact later behind rfl
  case h_2 plain => exact iff_of_true rfl fun rest point => absurd point (plain rest)

end FederationConfig.Duration
