import FederationConfig.Proofs.Resource.Components
import FederationConfig.Proofs.Text.Lowercase
import FederationConfig.Proofs.Text.Visible

/-!
Kinds that are accepted. Their lower case is a label, so that they are labels themselves but for
capital letters and for Kelvin signs, which count as the letter k.
-/

namespace FederationConfig.ResourceType

open Text (kelvinSign plainLower HasPlainLower)

def isKindLetter (c : Char) : Bool := c.isAlpha || c = kelvinSign

def isKindChar (c : Char) : Bool := isKindLetter c || c.isDigit || c = '-'

/-- A label in either case. A Kelvin sign counts as one byte, like the letter it stands for. -/
structure IsKind (kind : String) : Prop where
  chars : ∀ c ∈ kind.toList, isKindChar c
  first : ∃ c ∈ kind.toList.head?, isKindLetter c
  last : ∃ c ∈ kind.toList.getLast?, isKindLetter c || c.isDigit
  length : kind.utf8ByteSize ≤ 63 + 2 * kind.toList.count kelvinSign

theorem hasPlainLower_of_isKindChar {c : Char} (right : isKindChar c) : HasPlainLower c := by
  simp only [isKindChar, isKindLetter, Bool.or_eq_true, decide_eq_true_eq] at right
  rcases right with ((letter | kelvin) | digit) | hyphen
  · have bounds := (Text.isPrintableAscii_iff c).mp (Text.isPrintableAscii_of_isAlpha letter)
    exact .inl (by omega)
  · exact .inr kelvin
  · have bounds := Text.bounds_of_isDigit digit
    exact .inl (by omega)
  · subst hyphen
    exact .inl (by decide)

theorem classes_plainLower {c : Char} (plain : HasPlainLower c) :
    Dns.isLowerLetter (plainLower c) = isKindLetter c ∧
      Dns.isLabelChar (plainLower c) = isKindChar c ∧
      (plainLower c = '-' ↔ c = '-') := by
  have all : ∀ n : Fin 128,
      Dns.isLowerLetter (plainLower (Char.ofNat n)) = isKindLetter (Char.ofNat n) ∧
        Dns.isLabelChar (plainLower (Char.ofNat n)) = isKindChar (Char.ofNat n) ∧
        (plainLower (Char.ofNat n) = '-' ↔ Char.ofNat n = '-') := by
    decide +kernel
  rcases plain with small | rfl
  · have own := all ⟨c.toNat, small⟩
    rwa [Char.ofNat_toNat] at own
  · decide

theorem endsKind_iff {c : Char} (right : isKindChar c) :
    isKindLetter c || c.isDigit ↔ c ≠ '-' := by
  constructor
  · rintro ends rfl
    cases ends
  · intro other
    rw [isKindChar, decide_eq_false other, Bool.or_false] at right
    exact right

theorem isLetterLabel_map_plainLower {cs : List Char} (plain : ∀ c ∈ cs, HasPlainLower c) :
    Dns.IsLetterLabel (cs.map plainLower) ↔ (∀ c ∈ cs, isKindChar c) ∧
      (∃ c ∈ cs.head?, isKindLetter c) ∧ ∃ c ∈ cs.getLast?, isKindLetter c || c.isDigit := by
  have chars : (∀ d ∈ cs.map plainLower, Dns.isLabelChar d) ↔ ∀ c ∈ cs, isKindChar c := by
    rw [List.forall_mem_map]
    refine forall₂_congr fun c member => ?_
    rw [(classes_plainLower (plain c member)).2.1]
  rw [Dns.isLetterLabel_iff, Dns.endsLabel_iff, chars, and_assoc]
  refine and_congr_right fun right => ?_
  rcases List.eq_nil_or_concat cs with rfl | ⟨front, last, text⟩
  · simp
  · obtain ⟨first, rest, start⟩ : ∃ first rest, cs = first :: rest := by
      cases cs with
      | nil => simp at text
      | cons first rest => exact ⟨first, rest, rfl⟩
    have firstMember : first ∈ cs := by simp [start]
    have lastMember : last ∈ cs := by simp [text]
    have ends : cs.getLast? = some last := by rw [text, List.concat_eq_append, List.getLast?_concat]
    have begins : cs.head? = some first := by rw [start, List.head?_cons]
    rw [List.getLast?_map, List.head?_map, ends, begins]
    simp only [Option.map_some, Option.mem_some_iff, exists_eq_left', ne_eq, Option.some.injEq,
      (classes_plainLower (plain first firstMember)).1,
      (classes_plainLower (plain last lastMember)).2.2, endsKind_iff (right last lastMember)]
    exact and_comm

theorem isLabelName_lowerKind_iff (resource : ResourceType) :
    Dns.IsLabelName resource.lowerKind ↔ IsKind resource.kind := by
  have size {lower : List Char} : (String.ofList lower).utf8ByteSize = String.utf8Len lower :=
    String.utf8ByteSize_ofList lower
  have own : resource.kind.utf8ByteSize = String.utf8Len resource.kind.toList := by
    rw [← size, String.ofList_toList]
  rw [lowerKind, Dns.IsLabelName, String.toList_ofList, size]
  constructor
  · rintro ⟨short, label⟩
    have ascii : ∀ d ∈ Text.lowercase resource.kind.toList, 0 < d.toNat ∧ d.toNat < 128 := by
      intro d member
      have right : Dns.isNameChar d := by rw [Dns.isNameChar, label.chars d member, Bool.true_or]
      have bounds := Dns.toNat_of_isNameChar right
      omega
    have plain := Text.hasPlainLower_of_lowercase ascii
    rw [Text.lowercase_eq_map plain] at short label
    obtain ⟨chars, first, last⟩ := (isLetterLabel_map_plainLower plain).mp label
    have bytes := Text.utf8Len_map_plainLower plain
    exact ⟨chars, first, last, by omega⟩
  · intro kind
    have plain : ∀ c ∈ resource.kind.toList, HasPlainLower c := fun c member =>
      hasPlainLower_of_isKindChar (kind.chars c member)
    have bytes := Text.utf8Len_map_plainLower plain
    have length := kind.length
    rw [Text.lowercase_eq_map plain]
    exact ⟨by omega, (isLetterLabel_map_plainLower plain).mpr ⟨kind.chars, kind.first, kind.last⟩⟩

/-- Nothing is reported at a kind exactly if it is a label in either case. -/
theorem kind_unreported_iff (resource : ResourceType) (path : FieldPath) :
    (∀ violation ∈ resource.violations path, violation.field ≠ path.child "kind") ↔
      IsKind resource.kind := by
  have silent := unreported_iff resource path .kind
  rw [Component.Broken, not_not, isLabelName_lowerKind_iff] at silent
  exact silent

/-- A Kelvin sign is accepted in a kind, although it is no letter of ASCII. -/
theorem kelvin_sign_accepted_in_kind :
    let resource : ResourceType :=
      ⟨"apps", "v1", "\u212ait", "kits", .known .namespaced⟩
    let path : FieldPath := ⟨"spec", [.field "targetType"]⟩
    (∀ violation ∈ resource.violations path, violation.field ≠ path.child "kind") ∧
      ¬ ((∀ c ∈ resource.kind.toList, c.isAlpha || c.isDigit || c = '-') ∧
        (∃ c ∈ resource.kind.toList.head?, c.isAlpha) ∧
        (∃ c ∈ resource.kind.toList.getLast?, c.isAlpha || c.isDigit) ∧
        resource.kind.utf8ByteSize ≤ 63) := by
  refine ⟨by decide +kernel, fun label => ?_⟩
  have sign := label.1 '\u212a' (by decide)
  cases sign

end FederationConfig.ResourceType
