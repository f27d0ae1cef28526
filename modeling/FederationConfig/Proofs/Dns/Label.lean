import FederationConfig.Dns
import FederationConfig.Proofs.Text.Basic

/-!
Labels described by their characters. The machine that reads a name a character at a time takes
exactly the names whose labels are right.
-/

namespace FederationConfig.Dns

open Text (split)

def isLabelChar (c : Char) : Bool := isLowerAlphanumeric c || c = '-'

structure EndsLabel (rest : List Char) : Prop where
  chars : ∀ c ∈ rest, isLabelChar c
  last : rest.getLast? ≠ some '-'

/-- A label between the dots of a subdomain. -/
structure IsHostLabel (label : List Char) : Prop extends EndsLabel label where
  given : label ≠ []
  first : label.head? ≠ some '-'

/-- A label that stands alone. -/
structure IsLetterLabel (label : List Char) : Prop extends EndsLabel label where
  first : ∃ c ∈ label.head?, isLowerLetter c

theorem endsLabel_iff (rest : List Char) :
    EndsLabel rest ↔ (∀ c ∈ rest, isLabelChar c) ∧ rest.getLast? ≠ some '-' :=
  ⟨fun ends => ⟨ends.chars, ends.last⟩, fun ends => ⟨ends.1, ends.2⟩⟩

theorem isHostLabel_iff (label : List Char) :
    IsHostLabel label ↔ EndsLabel label ∧ label ≠ [] ∧ label.head? ≠ some '-' :=
  ⟨fun host => ⟨host.toEndsLabel, host.given, host.first⟩,
    fun host => { host.1 with given := host.2.1, first := host.2.2 }⟩

theorem isLetterLabel_iff (label : List Char) :
    IsLetterLabel label ↔ EndsLabel label ∧ ∃ c ∈ label.head?, isLowerLetter c :=
  ⟨fun letter => ⟨letter.toEndsLabel, letter.first⟩,
    fun letter => { letter.1 with first := letter.2 }⟩

instance (rest : List Char) : Decidable (EndsLabel rest) :=
  decidable_of_iff (rest.all isLabelChar ∧ rest.getLast? ≠ some '-')
    (by rw [endsLabel_iff, List.all_eq_true])

instance (label : List Char) : Decidable (IsHostLabel label) :=
  decidable_of_iff' _ (isHostLabel_iff label)

instance (label : List Char) : Decidable (IsLetterLabel label) :=
  decidable_of_iff (EndsLabel label ∧ label.head?.any isLowerLetter)
    (by rw [isLetterLabel_iff, Option.any_eq_true]; rfl)

theorem isLowerAlphanumeric_of_isLowerLetter {c : Char} (letter : isLowerLetter c) :
    isLowerAlphanumeric c := by
  rw [isLowerAlphanumeric, letter, Bool.true_or]

theorem isLabelChar_iff (c : Char) : isLabelChar c ↔ isLowerAlphanumeric c ∨ c = '-' := by
  simp [isLabelChar]

theorem ne_hyphen_of_isLowerAlphanumeric {c : Char} (right : isLowerAlphanumeric c) :
    c ≠ '-' := by
  rintro rfl
  cases right

theorem ne_dot_of_isLabelChar {c : Char} (right : isLabelChar c) : c ≠ '.' := by
  rintro rfl
  cases right

theorem EndsLabel.undotted {rest : List Char} (ends : EndsLabel rest) : '.' ∉ rest :=
  fun member => ne_dot_of_isLabelChar (ends.chars '.' member) rfl

theorem endsLabel_nil : EndsLabel [] := by decide

theorem endsLabel_cons (c : Char) (rest : List Char) :
    EndsLabel (c :: rest) ↔ isLabelChar c ∧ (rest = [] → c ≠ '-') ∧ EndsLabel rest := by
  cases rest with
  | nil => simp [endsLabel_iff]
  | cons d rest => simp [endsLabel_iff, and_assoc]

theorem endsLabel_cons_of_alphanumeric {c : Char} (right : isLowerAlphanumeric c)
    (rest : List Char) : EndsLabel (c :: rest) ↔ EndsLabel rest := by
  simp [endsLabel_cons, isLabelChar, right, ne_hyphen_of_isLowerAlphanumeric right]

theorem endsLabel_cons_hyphen (rest : List Char) :
    EndsLabel ('-' :: rest) ↔ rest ≠ [] ∧ EndsLabel rest := by
  have hyphen : isLabelChar '-' := rfl
  simp [endsLabel_cons, hyphen]

theorem isHostLabel_cons (c : Char) (rest : List Char) :
    IsHostLabel (c :: rest) ↔ isLowerAlphanumeric c ∧ EndsLabel rest := by
  rw [isHostLabel_iff]
  constructor
  · rintro ⟨ends, -, first⟩
    have hyphen : c ≠ '-' := fun same => first (congrArg some same)
    have right := ((isLabelChar_iff c).mp (ends.chars c List.mem_cons_self)).resolve_right hyphen
    exact ⟨right, (endsLabel_cons_of_alphanumeric right rest).mp ends⟩
  · rintro ⟨right, ends⟩
    refine ⟨(endsLabel_cons_of_alphanumeric right rest).mpr ends, List.cons_ne_nil _ _, ?_⟩
    intro same
    exact ne_hyphen_of_isLowerAlphanumeric right (Option.some.inj same)

theorem isLetterLabel_cons (c : Char) (rest : List Char) :
    IsLetterLabel (c :: rest) ↔ isLowerLetter c ∧ EndsLabel rest := by
  have first : (∃ d ∈ (c :: rest).head?, isLowerLetter d) ↔ isLowerLetter c := by simp
  rw [isLetterLabel_iff, first, and_comm]
  refine and_congr_right fun letter => ?_
  exact endsLabel_cons_of_alphanumeric (isLowerAlphanumeric_of_isLowerLetter letter) rest

theorem IsLetterLabel.isHostLabel {label : List Char} (letter : IsLetterLabel label) :
    IsHostLabel label := by
  obtain ⟨c, first, lower⟩ := letter.first
  obtain ⟨rest, rfl⟩ := List.head?_eq_some_iff.mp first
  exact (isHostLabel_cons c rest).mpr ⟨isLowerAlphanumeric_of_isLowerLetter lower,
    ((isLetterLabel_cons c rest).mp letter).2⟩

structure LabelsOf (labels : List (List Char)) (name : List Char) : Prop where
  given : labels ≠ []
  host : ∀ label ∈ labels, IsHostLabel label
  joined : ['.'].intercalate labels = name

theorem labelsOf_singleton {label : List Char} (host : IsHostLabel label) :
    LabelsOf [label] label :=
  ⟨List.cons_ne_nil _ _, List.forall_mem_singleton.mpr host, List.intercalate_singleton⟩

theorem LabelsOf.cons {label name : List Char} {labels : List (List Char)}
    (host : IsHostLabel label) (made : LabelsOf labels name) :
    LabelsOf (label :: labels) (label ++ '.' :: name) := by
  refine ⟨List.cons_ne_nil _ _, List.forall_mem_cons.mpr ⟨host, made.host⟩, ?_⟩
  obtain ⟨first, others, rfl⟩ := List.exists_cons_of_ne_nil made.given
  rw [List.intercalate_cons_cons, made.joined]
  simp

/-- No label has a dot, so that a name has its labels in one way only. -/
theorem LabelsOf.eq_split {labels : List (List Char)} {name : List Char}
    (made : LabelsOf labels name) : labels = split '.' name := by
  have undotted : ∀ label ∈ labels, '.' ∉ label := fun label member =>
    (made.host label member).undotted
  rw [← made.joined, Text.split_intercalate made.given undotted]

theorem labelsOf_split {name : List Char} (host : ∀ label ∈ split '.' name, IsHostLabel label) :
    LabelsOf (split '.' name) name :=
  ⟨Text.split_ne_nil '.' name, host, Text.intercalate_split '.' name⟩

theorem exists_labelsOf_iff (name : List Char) :
    (∃ labels, LabelsOf labels name) ↔ ∀ label ∈ split '.' name, IsHostLabel label := by
  constructor
  · rintro ⟨labels, made⟩
    rw [← made.eq_split]
    exact made.host
  · intro host
    exact ⟨split '.' name, labelsOf_split host⟩

/-- What may stand behind a cursor up to the end of its label. -/
def Cursor.Continues : Cursor → List Char → Prop
  | .start, rest => IsHostLabel rest
  | .alphanumeric, rest => EndsLabel rest
  | .hyphen, rest => rest ≠ [] ∧ EndsLabel rest

theorem Cursor.continues_nil (cursor : Cursor) : cursor.Continues [] ↔ cursor = .alphanumeric := by
  cases cursor with
  | start => simp [Continues, isHostLabel_iff]
  | alphanumeric => simp [Continues, endsLabel_nil]
  | hyphen => simp [Continues]

theorem Cursor.continues_cons (cursor : Cursor) {c : Char} (undotted : c ≠ '.')
    (rest : List Char) :
    cursor.Continues (c :: rest) ↔ ∃ next ∈ cursor.next? c, next.Continues rest := by
  by_cases right : isLowerAlphanumeric c
  · cases cursor with
    | start => simp [Continues, next?, right, isHostLabel_cons]
    | alphanumeric => simp [Continues, next?, right, endsLabel_cons_of_alphanumeric]
    | hyphen => simp [Continues, next?, right, endsLabel_cons_of_alphanumeric]
  · by_cases hyphen : c = '-'
    · subst hyphen
      cases cursor with
      | start => simp [Continues, next?, right, isHostLabel_cons]
      | alphanumeric => simp [Continues, next?, right, endsLabel_cons_hyphen]
      | hyphen => simp [Continues, next?, right, endsLabel_cons_hyphen]
    · have wrong : ¬ isLabelChar c := by simp [isLabelChar_iff, right, hyphen]
      cases cursor with
      | start => simp [Continues, next?, right, isHostLabel_cons]
      | alphanumeric => simp [Continues, next?, right, hyphen, undotted, endsLabel_cons, wrong]
      | hyphen => simp [Continues, next?, right, hyphen, endsLabel_cons, wrong]

theorem Cursor.next?_dot (cursor : Cursor) :
    cursor.next? '.' = if cursor = .alphanumeric then some .start else none := by
  cases cursor <;> rfl

/-- A run of the machine, from any cursor: it goes on to the end of its label, and every label
behind that one is right. -/
theorem Cursor.accepts_iff (cursor : Cursor) {rest first : List Char} {others : List (List Char)}
    (parts : split '.' rest = first :: others) :
    cursor.accepts rest ↔ cursor.Continues first ∧ ∀ label ∈ others, IsHostLabel label := by
  induction rest generalizing cursor first others with
  | nil =>
      cases parts
      simp [accepts, continues_nil]
  | cons c rest ih =>
      obtain ⟨next, later, behind⟩ := List.exists_cons_of_ne_nil (Text.split_ne_nil '.' rest)
      by_cases dot : c = '.'
      · subst dot
        rw [Text.split_cons_separator, behind] at parts
        cases parts
        rw [accepts, next?_dot, continues_nil, List.forall_mem_cons]
        by_cases ended : cursor = .alphanumeric
        · rw [if_pos ended]
          exact (ih .start behind).trans (and_iff_right ended).symm
        · simp [ended]
      · rw [Text.split_cons_of_ne dot behind] at parts
        cases parts
        rw [continues_cons cursor dot, accepts]
        cases step : cursor.next? c with
        | none => simp
        | some after => simp [ih after behind]

theorem isSubdomain_iff (name : List Char) :
    isSubdomain name ↔ ∀ label ∈ split '.' name, IsHostLabel label := by
  obtain ⟨first, others, parts⟩ := List.exists_cons_of_ne_nil (Text.split_ne_nil '.' name)
  rw [parts, List.forall_mem_cons]
  exact Cursor.start.accepts_iff parts

theorem accepts_alphanumeric_iff {rest : List Char} (undotted : '.' ∉ rest) :
    Cursor.alphanumeric.accepts rest ↔ EndsLabel rest := by
  rw [Cursor.accepts_iff .alphanumeric (Text.split_of_not_mem undotted)]
  exact and_iff_left (List.forall_mem_nil _)

theorem isLabel_iff (name : List Char) : isLabel name ↔ IsLetterLabel name := by
  cases name with
  | nil => simp [isLabel, isLetterLabel_iff]
  | cons c rest =>
      rw [isLetterLabel_cons, isLabel, Bool.and_eq_true, Bool.and_eq_true, and_assoc]
      refine and_congr_right fun _ => ?_
      constructor
      · rintro ⟨undotted, accepted⟩
        exact (accepts_alphanumeric_iff (by simpa using undotted)).mp accepted
      · intro ends
        exact ⟨by simpa using ends.undotted, (accepts_alphanumeric_iff ends.undotted).mpr ends⟩

end FederationConfig.Dns
