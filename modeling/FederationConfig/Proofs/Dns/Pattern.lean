import FederationConfig.Proofs.Dns.Label
import Mathlib.Computability.Language

namespace FederationConfig.Dns

open Text (split)
open scoped Computability

inductive Pattern where
  | oneOf (ranges : List (Char × Char))
  | exactly (c : Char)
  | sequence (first second : Pattern)
  | optional (inner : Pattern)
  | repeated (inner : Pattern)

namespace Pattern

def Covers (ranges : List (Char × Char)) (c : Char) : Prop :=
  ∃ range ∈ ranges, range.1 ≤ c ∧ c ≤ range.2

def language : Pattern → Language Char
  | oneOf ranges => {text | ∃ c, text = [c] ∧ Covers ranges c}
  | exactly c => {[c]}
  | sequence first second => first.language * second.language
  | optional inner => 1 + inner.language
  | repeated inner => inner.language∗

def renderRange (range : Char × Char) : String :=
  if range.1 = range.2 then range.1.toString
  else range.1.toString ++ "-" ++ range.2.toString

def enclose : Pattern → String → String
  | sequence _ _, text => "(" ++ text ++ ")"
  | _, text => text

def render : Pattern → String
  | oneOf ranges => "[" ++ String.join (ranges.map renderRange) ++ "]"
  | exactly c => "\\" ++ c.toString
  | sequence first second => first.render ++ second.render
  | optional inner => inner.enclose inner.render ++ "?"
  | repeated inner => inner.enclose inner.render ++ "*"

theorem mem_oneOf (ranges : List (Char × Char)) (text : List Char) :
    text ∈ (oneOf ranges).language ↔ ∃ c, text = [c] ∧ Covers ranges c :=
  Iff.rfl

theorem mem_repeated_oneOf (ranges : List (Char × Char)) (text : List Char) :
    text ∈ (repeated (oneOf ranges)).language ↔ ∀ c ∈ text, Covers ranges c := by
  rw [language, Language.mem_kstar]
  constructor
  · rintro ⟨parts, rfl, matched⟩
    rw [List.forall_mem_flatten]
    intro part member
    obtain ⟨c, rfl, covered⟩ := (mem_oneOf ranges part).mp (matched part member)
    exact List.forall_mem_singleton.mpr covered
  · intro covered
    refine ⟨text.map ([·]), ?_, ?_⟩
    · rw [← List.flatMap_def, List.flatMap_singleton']
    · intro part member
      obtain ⟨c, inside, rfl⟩ := List.mem_map.mp member
      exact ⟨c, rfl, covered c inside⟩

end Pattern

def lettersFormat : Pattern := .oneOf [('a', 'z')]

def alphanumericsFormat : Pattern := .oneOf [('a', 'z'), ('0', '9')]

def labelCharsFormat : Pattern := .oneOf [('-', '-'), ('a', 'z'), ('0', '9')]

def endingFormat : Pattern :=
  .optional (.sequence (.repeated labelCharsFormat) alphanumericsFormat)

def hostLabelFormat : Pattern := .sequence alphanumericsFormat endingFormat

def subdomainFormat : Pattern :=
  .sequence hostLabelFormat (.repeated (.sequence (.exactly '.') hostLabelFormat))

def labelFormat : Pattern := .sequence lettersFormat endingFormat

theorem render_subdomainFormat : subdomainFormat.render = subdomainPattern := by decide +kernel

theorem render_labelFormat : labelFormat.render = labelPattern := by decide +kernel

theorem covers_letters (c : Char) : Pattern.Covers [('a', 'z')] c ↔ isLowerLetter c := by
  simp [Pattern.Covers, isLowerLetter]

theorem covers_alphanumerics (c : Char) :
    Pattern.Covers [('a', 'z'), ('0', '9')] c ↔ isLowerAlphanumeric c := by
  simp [Pattern.Covers, isLowerAlphanumeric, isLowerLetter, Char.isDigit, Char.le_def]

theorem covers_labelChars (c : Char) :
    Pattern.Covers [('-', '-'), ('a', 'z'), ('0', '9')] c ↔ isLabelChar c := by
  have hyphen : '-' ≤ c ∧ c ≤ '-' ↔ c = '-' := by
    constructor
    · intro bounds
      exact Char.le_antisymm bounds.2 bounds.1
    · rintro rfl
      exact ⟨Char.le_refl _, Char.le_refl _⟩
  rw [isLabelChar_iff, ← covers_alphanumerics, or_comm, ← hyphen]
  simp [Pattern.Covers]

theorem mem_endingFormat (text : List Char) :
    text ∈ endingFormat.language ↔ EndsLabel text := by
  have body (front : List Char) : front ∈ (Pattern.repeated labelCharsFormat).language ↔
      ∀ c ∈ front, isLabelChar c := by
    simp only [labelCharsFormat, Pattern.mem_repeated_oneOf, covers_labelChars]
  have stop (back : List Char) : back ∈ alphanumericsFormat.language ↔
      ∃ c, back = [c] ∧ isLowerAlphanumeric c := by
    simp only [alphanumericsFormat, Pattern.mem_oneOf, covers_alphanumerics]
  rw [endingFormat, Pattern.language, Language.mem_add, Language.mem_one, Pattern.language,
    Language.mem_mul]
  constructor
  · rintro (rfl | ⟨front, chars, back, last, rfl⟩)
    · exact endsLabel_nil
    · obtain ⟨c, rfl, right⟩ := (stop back).mp last
      refine ⟨List.forall_mem_append.mpr ⟨(body front).mp chars, ?_⟩, ?_⟩
      · exact List.forall_mem_singleton.mpr ((isLabelChar_iff c).mpr (.inl right))
      · rw [List.getLast?_concat]
        exact fun same => ne_hyphen_of_isLowerAlphanumeric right (Option.some.inj same)
  · intro ends
    rcases List.eq_nil_or_concat text with rfl | ⟨front, c, rfl⟩
    · exact .inl rfl
    · rw [List.concat_eq_append] at ends ⊢
      obtain ⟨chars, last⟩ := List.forall_mem_append.mp ends.chars
      have hyphen : c ≠ '-' := by
        rintro rfl
        exact ends.last List.getLast?_concat
      have right := ((isLabelChar_iff c).mp (last c List.mem_cons_self)).resolve_right hyphen
      exact .inr ⟨front, (body front).mpr chars, [c], (stop [c]).mpr ⟨c, rfl, right⟩, rfl⟩

theorem mem_sequence_endingFormat (ranges : List (Char × Char)) (text : List Char) :
    text ∈ (Pattern.sequence (.oneOf ranges) endingFormat).language ↔
      ∃ c rest, text = c :: rest ∧ Pattern.Covers ranges c ∧ EndsLabel rest := by
  rw [Pattern.language, Language.mem_mul]
  constructor
  · rintro ⟨front, first, rest, ends, rfl⟩
    obtain ⟨c, rfl, covered⟩ := (Pattern.mem_oneOf ranges front).mp first
    exact ⟨c, rest, rfl, covered, (mem_endingFormat rest).mp ends⟩
  · rintro ⟨c, rest, rfl, covered, ends⟩
    exact ⟨[c], (Pattern.mem_oneOf ranges [c]).mpr ⟨c, rfl, covered⟩, rest,
      (mem_endingFormat rest).mpr ends, rfl⟩

theorem mem_hostLabelFormat (text : List Char) :
    text ∈ hostLabelFormat.language ↔ IsHostLabel text := by
  rw [hostLabelFormat, alphanumericsFormat, mem_sequence_endingFormat]
  cases text with
  | nil => simp [isHostLabel_iff]
  | cons c rest => simp [isHostLabel_cons, covers_alphanumerics, and_assoc]

theorem mem_labelFormat (text : List Char) :
    text ∈ labelFormat.language ↔ IsLetterLabel text := by
  rw [labelFormat, lettersFormat, mem_sequence_endingFormat]
  cases text with
  | nil => simp [isLetterLabel_iff]
  | cons c rest => simp [isLetterLabel_cons, covers_letters, and_assoc]

theorem mem_repeated_dotted (text : List Char) :
    text ∈ (Pattern.repeated (.sequence (.exactly '.') hostLabelFormat)).language ↔
      ∃ labels : List (List Char), text = (labels.map ('.' :: ·)).flatten ∧
        ∀ label ∈ labels, IsHostLabel label := by
  have piece (part : List Char) :
      part ∈ (Pattern.sequence (.exactly '.') hostLabelFormat).language ↔
        ∃ label, part = '.' :: label ∧ IsHostLabel label := by
    rw [Pattern.language, Language.mem_mul]
    constructor
    · rintro ⟨_, rfl, label, matched, rfl⟩
      exact ⟨label, rfl, (mem_hostLabelFormat label).mp matched⟩
    · rintro ⟨label, rfl, host⟩
      exact ⟨['.'], rfl, label, (mem_hostLabelFormat label).mpr host, rfl⟩
  rw [Pattern.language, Language.mem_kstar]
  constructor
  · rintro ⟨parts, rfl, matched⟩
    induction parts with
    | nil => exact ⟨[], rfl, List.forall_mem_nil _⟩
    | cons part parts ih =>
        obtain ⟨first, later⟩ := List.forall_mem_cons.mp matched
        obtain ⟨label, rfl, host⟩ := (piece part).mp first
        obtain ⟨labels, text, hosts⟩ := ih later
        exact ⟨label :: labels, by rw [List.flatten_cons, text]; rfl,
          List.forall_mem_cons.mpr ⟨host, hosts⟩⟩
  · rintro ⟨labels, rfl, hosts⟩
    refine ⟨labels.map ('.' :: ·), rfl, ?_⟩
    intro part member
    obtain ⟨label, inside, rfl⟩ := List.mem_map.mp member
    exact (piece _).mpr ⟨label, rfl, hosts label inside⟩

theorem mem_subdomainFormat (name : List Char) :
    name ∈ subdomainFormat.language ↔ ∃ labels, LabelsOf labels name := by
  rw [subdomainFormat, Pattern.language, Language.mem_mul]
  constructor
  · rintro ⟨first, matched, rest, dotted, rfl⟩
    obtain ⟨others, rfl, hosts⟩ := (mem_repeated_dotted rest).mp dotted
    have host := (mem_hostLabelFormat first).mp matched
    exact ⟨first :: others, List.cons_ne_nil _ _, List.forall_mem_cons.mpr ⟨host, hosts⟩,
      Text.intercalate_cons '.' first others⟩
  · rintro ⟨labels, given, hosts, rfl⟩
    obtain ⟨first, others, rfl⟩ := List.exists_cons_of_ne_nil given
    obtain ⟨host, later⟩ := List.forall_mem_cons.mp hosts
    exact ⟨first, (mem_hostLabelFormat first).mpr host, _,
      (mem_repeated_dotted _).mpr ⟨others, rfl, later⟩,
      (Text.intercalate_cons '.' first others).symm⟩

end FederationConfig.Dns
