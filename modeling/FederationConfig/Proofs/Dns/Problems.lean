import FederationConfig.Proofs.Dns.Pattern

/-!
What is found wrong with a name. It is too long, or it is outside the language of its pattern, and
either is told apart from the other.
-/

namespace FederationConfig.Dns

open Text (split)

theorem subdomainProblems_eq (name : String) :
    subdomainProblems name =
      (if 253 < name.utf8ByteSize then [tooLong 253] else []) ++
        (if ∃ label ∈ split '.' name.toList, ¬ IsHostLabel label then [subdomainSyntax]
          else []) := by
  rw [subdomainProblems]
  congr 1
  by_cases right : isSubdomain name.toList
  · have host := (isSubdomain_iff name.toList).mp right
    rw [if_pos right, if_neg]
    rintro ⟨label, member, wrong⟩
    exact wrong (host label member)
  · rw [if_neg right, if_pos]
    simpa only [isSubdomain_iff, not_forall, exists_prop] using right

theorem labelProblems_eq (name : String) :
    labelProblems name =
      (if 63 < name.utf8ByteSize then [tooLong 63] else []) ++
        (if IsLetterLabel name.toList then [] else [labelSyntax]) := by
  simp only [labelProblems, isLabel_iff]
  rfl

def IsSubdomainName (name : String) : Prop :=
  name.utf8ByteSize ≤ 253 ∧ ∀ label ∈ split '.' name.toList, IsHostLabel label

def IsLabelName (name : String) : Prop :=
  name.utf8ByteSize ≤ 63 ∧ IsLetterLabel name.toList

instance (name : String) : Decidable (IsSubdomainName name) :=
  inferInstanceAs (Decidable (_ ∧ _))

instance (name : String) : Decidable (IsLabelName name) :=
  inferInstanceAs (Decidable (_ ∧ _))

theorem subdomainProblems_eq_nil_iff (name : String) :
    subdomainProblems name = [] ↔ IsSubdomainName name := by
  rw [subdomainProblems_eq]
  simp [IsSubdomainName]

theorem labelProblems_eq_nil_iff (name : String) :
    labelProblems name = [] ↔ IsLabelName name := by
  rw [labelProblems_eq]
  simp [IsLabelName]

theorem subdomainProblems_of_labelsOf {name : String} {labels : List (List Char)}
    (made : LabelsOf labels name.toList) :
    subdomainProblems name = if name.utf8ByteSize ≤ 253 then [] else [tooLong 253] := by
  have host := (exists_labelsOf_iff name.toList).mp ⟨labels, made⟩
  have right : ¬ ∃ label ∈ split '.' name.toList, ¬ IsHostLabel label := by
    rintro ⟨label, member, wrong⟩
    exact wrong (host label member)
  rw [subdomainProblems_eq, if_neg right, List.append_nil]
  by_cases within : name.utf8ByteSize ≤ 253
  · rw [if_pos within, if_neg (Nat.not_lt.mpr within)]
  · rw [if_neg within, if_pos (Nat.not_le.mp within)]

theorem labelCount_eq (name : String) : labelCount name = name.toList.count '.' + 1 :=
  Text.length_split '.' name.toList

def isNameChar (c : Char) : Bool := isLabelChar c || c = '.'

theorem isNameChar_of_subdomain {name : String} (right : subdomainProblems name = []) :
    ∀ c ∈ name.toList, isNameChar c := by
  obtain ⟨-, host⟩ := (subdomainProblems_eq_nil_iff name).mp right
  intro c member
  rcases Text.mem_split '.' member with rfl | ⟨label, inside, member⟩
  · rfl
  · rw [isNameChar, (host label inside).chars c member, Bool.true_or]

theorem isNameChar_of_label {name : String} (right : labelProblems name = []) :
    ∀ c ∈ name.toList, isNameChar c := by
  obtain ⟨-, label⟩ := (labelProblems_eq_nil_iff name).mp right
  intro c member
  rw [isNameChar, label.chars c member, Bool.true_or]

theorem toNat_of_isNameChar {c : Char} (right : isNameChar c) :
    45 ≤ c.toNat ∧ c.toNat ≤ 57 ∨ 97 ≤ c.toNat ∧ c.toNat ≤ 122 := by
  simp only [isNameChar, isLabelChar, isLowerAlphanumeric, isLowerLetter, Char.isDigit,
    Bool.or_eq_true, Bool.and_eq_true, decide_eq_true_eq, Char.le_def, UInt32.le_iff_toNat_le,
    ge_iff_le] at right
  rcases right with ((letter | digit) | rfl) | rfl
  · exact .inr letter
  · left
    have low : 48 ≤ c.toNat := digit.1
    have high : c.toNat ≤ 57 := digit.2
    omega
  · decide
  · decide

theorem plain_of_isNameChar {c : Char} (right : isNameChar c) :
    c ≠ '\n' ∧ ¬ c.isUpper ∧ c.toNat < 128 := by
  have range := toNat_of_isNameChar right
  refine ⟨?_, ?_, by omega⟩
  · rintro rfl
    cases right
  · intro upper
    have bounds : 'A'.val ≤ c.val ∧ c.val ≤ 'Z'.val := of_decide_eq_true upper
    have low : 65 ≤ c.toNat := UInt32.le_iff_toNat_le.mp bounds.1
    have high : c.toNat ≤ 90 := UInt32.le_iff_toNat_le.mp bounds.2
    omega

/-- The length and the form of a name are judged apart from each other, and the form by the
labels of the name, which is what its pattern says as well. An accepted name is plain lower case,
and made of so many labels as are counted, in one way. -/
theorem problems_exactly_of_form (name : String) :
    subdomainProblems name =
        (if 253 < name.utf8ByteSize then [tooLong 253] else []) ++
          (if ∃ label ∈ split '.' name.toList, ¬ IsHostLabel label then [subdomainSyntax]
            else []) ∧
      labelProblems name =
        (if 63 < name.utf8ByteSize then [tooLong 63] else []) ++
          (if ¬ IsLetterLabel name.toList then [labelSyntax] else []) ∧
      (subdomainFormat.render = subdomainPattern ∧
        (name.toList ∈ subdomainFormat.language ↔
          ∀ label ∈ split '.' name.toList, IsHostLabel label)) ∧
      (labelFormat.render = labelPattern ∧
        (name.toList ∈ labelFormat.language ↔ IsLetterLabel name.toList)) ∧
      (subdomainProblems name = [] ∨ labelProblems name = [] →
        ∀ c ∈ name.toList, c ≠ '\n' ∧ ¬ c.isUpper ∧ c.toNat < 128) ∧
      (subdomainProblems name = [] → ∃ labels, LabelsOf labels name.toList ∧
        labelCount name = labels.length ∧
          ∀ others, LabelsOf others name.toList → others = labels) := by
  refine ⟨subdomainProblems_eq name, ?_, ⟨render_subdomainFormat, ?_⟩,
    ⟨render_labelFormat, mem_labelFormat name.toList⟩, ?_, ?_⟩
  · rw [labelProblems_eq, ite_not]
  · rw [mem_subdomainFormat, exists_labelsOf_iff]
  · intro accepted c member
    apply plain_of_isNameChar
    rcases accepted with right | right
    · exact isNameChar_of_subdomain right c member
    · exact isNameChar_of_label right c member
  · intro right
    have made := labelsOf_split ((subdomainProblems_eq_nil_iff name).mp right).2
    exact ⟨split '.' name.toList, made, rfl, fun others => LabelsOf.eq_split⟩

theorem problems_of_three_labels :
    subdomainProblems "types.kubefed.io" = [] ∧
      (∀ c ∈ "types.kubefed.io".toList, c ≠ '\n' ∧ ¬ c.isUpper ∧ c.toNat < 128) ∧
      labelCount "types.kubefed.io" = ["types".toList, "kubefed".toList, "io".toList].length := by
  obtain ⟨-, -, -, -, plain, counted⟩ := problems_exactly_of_form "types.kubefed.io"
  have right : subdomainProblems "types.kubefed.io" = [] := by decide +kernel
  have made : LabelsOf ["types".toList, "kubefed".toList, "io".toList]
      "types.kubefed.io".toList := ⟨by decide, by decide, by decide⟩
  obtain ⟨labels, -, count, only⟩ := counted right
  refine ⟨right, plain (.inl right), ?_⟩
  rw [count, only _ made]

end FederationConfig.Dns
