import FederationConfig.Proofs.Text.Delimiter

namespace FederationConfig.Text

def Ends (c : Char) (text : String) : Prop := text.toList.getLast? = some c

namespace Ends

variable {c : Char} {text : String}

theorem ofList {chars : List Char} (last : chars.getLast? = some c) :
    Ends c (String.ofList chars) := by
  rw [Ends, String.toList_ofList, last]

theorem append (front : String) (ends : Ends c text) : Ends c (front ++ text) := by
  rw [Ends, String.toList_append, List.getLast?_append, ends]
  rfl

end Ends

/-- The text has a last character, and it is another one. -/
def EndsUnlike (c : Char) (text : String) : Prop := ∃ last, Ends last text ∧ last ≠ c

namespace EndsUnlike

variable {c : Char} {text : String}

theorem ofList {last : Char} {chars : List Char} (ends : chars.getLast? = some last)
    (other : last ≠ c) : EndsUnlike c (String.ofList chars) :=
  ⟨last, .ofList ends, other⟩

theorem append (front : String) (unlike : EndsUnlike c text) : EndsUnlike c (front ++ text) := by
  obtain ⟨last, ends, other⟩ := unlike
  exact ⟨last, ends.append front, other⟩

theorem intercalate (separator : String) {parts : List String} (given : parts ≠ [])
    (unlike : ∀ part ∈ parts, EndsUnlike c part) :
    EndsUnlike c (separator.intercalate parts) := by
  induction parts with
  | nil => exact absurd rfl given
  | cons first later ih =>
      obtain ⟨firstUnlike, laterUnlike⟩ := List.forall_mem_cons.mp unlike
      cases later with
      | nil =>
          rw [String.intercalate_singleton]
          exact firstUnlike
      | cons next later =>
          rw [String.intercalate_cons_cons]
          exact (ih (List.cons_ne_nil _ _) laterUnlike).append _

theorem not_endsWith {ending : String} (ends : Ends c ending) (unlike : EndsUnlike c text) :
    ¬ text.endsWith ending := by
  intro closed
  obtain ⟨last, endsToo, other⟩ := unlike
  have suffix : ending.toList <:+ text.toList := by
    rw [← String.copy_toSlice (s := text)]
    exact String.Slice.endsWith_string_iff.mp closed
  obtain ⟨front, whole⟩ := suffix
  rw [Ends, ← whole, List.getLast?_append, ends] at endsToo
  exact other (Option.some.inj endsToo).symm

end EndsUnlike

theorem endsWith_append (front ending : String) : (front ++ ending).endsWith ending := by
  refine String.Slice.endsWith_string_iff.mpr ?_
  rw [String.copy_toSlice, String.toList_append]
  exact List.suffix_append _ _

end FederationConfig.Text
