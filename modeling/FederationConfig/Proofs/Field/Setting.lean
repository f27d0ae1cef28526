import FederationConfig.Check
import FederationConfig.Proofs.Choice

namespace FederationConfig

namespace Choice

variable {α : Type} [Choice α]

def spellings (value : α) : List String := name value :: aliases value

/-- A closed set in which every spelling tells its value. -/
class Unambiguous (α : Type) [Choice α] : Prop where
  empty_not_mem : ∀ value : α, "" ∉ spellings value
  eq_of_mem : ∀ value other : α, ∀ text ∈ spellings value, text ∈ spellings other → value = other

instance : Unambiguous Scope where
  empty_not_mem value := by cases value <;> decide
  eq_of_mem value other := by cases value <;> cases other <;> decide

instance : Unambiguous Toggle where
  empty_not_mem value := by cases value <;> decide
  eq_of_mem value other := by cases value <;> cases other <;> decide

instance : Unambiguous RunState where
  empty_not_mem value := by cases value <;> decide
  eq_of_mem value other := by cases value <;> cases other <;> decide

instance : Unambiguous ResourceLock where
  empty_not_mem value := by cases value <;> decide
  eq_of_mem value other := by cases value <;> cases other <;> decide

theorem mem_spellings_iff (text : String) (value : α) :
    text ∈ spellings value ↔ name value = text ∨ text ∈ aliases value := by
  rw [spellings, List.mem_cons, eq_comm]

theorem mem_spellings_of_parse? {text : String} {value : α} (parsed : parse? text = some value) :
    text ∈ spellings value := by
  have found := List.find?_some parsed
  exact (mem_spellings_iff text value).mpr (of_decide_eq_true found)

variable [LawfulChoice α]

theorem mem_options (value : α) : value ∈ (options : List α) :=
  List.mem_of_find?_eq_some (LawfulChoice.parse?_name value)

theorem name_mem_names (value : α) : name value ∈ names α :=
  List.mem_map_of_mem (mem_options value)

theorem parse?_eq_none_iff (text : String) :
    (parse? text : Option α) = none ↔ ∀ value : α, text ∉ spellings value := by
  simp only [parse?, List.find?_eq_none, decide_eq_true_eq, ← mem_spellings_iff]
  exact ⟨fun none value => none value (mem_options value), fun none value _ => none value⟩

theorem parse?_eq_some_iff [Unambiguous α] (text : String) (value : α) :
    parse? text = some value ↔ text ∈ spellings value := by
  refine ⟨mem_spellings_of_parse?, ?_⟩
  intro spelled
  cases parsed : (parse? text : Option α) with
  | none => exact absurd spelled ((parse?_eq_none_iff text).mp parsed value)
  | some other =>
      rw [Unambiguous.eq_of_mem value other text spelled (mem_spellings_of_parse? parsed)]

end Choice

namespace Setting

variable {α : Type} [Choice α]

theorem ofText_empty : (ofText "" : Setting α) = missing := if_pos rfl

theorem ofText_of_parse {text : String} {value : α} (given : text ≠ "")
    (parsed : Choice.parse? text = some value) : ofText text = known value := by
  rw [ofText, if_neg given, parsed]

theorem ofText_of_parse_none {text : String} (given : text ≠ "")
    (unparsed : (Choice.parse? text : Option α) = none) :
    (ofText text : Setting α) = unrecognized text := by
  rw [ofText, if_neg given, unparsed]

/-- A closed set under which a setting and its text say the same. -/
structure Faithful (α : Type) [Choice α] : Prop where
  stable : ∀ text, (ofText (ofText text : Setting α).text : Setting α) = ofText text
  known_iff : ∀ text (value : α), ofText text = known value ↔ text ∈ Choice.spellings value
  unrecognized_iff : ∀ text kept, (ofText text : Setting α) = unrecognized kept ↔
    kept = text ∧ text ≠ "" ∧ ∀ value : α, text ∉ Choice.spellings value
  judged : ∀ text path, Check.setting path (ofText text : Setting α) =
    Check.oneOf path (ofText text : Setting α).text (Choice.names α)

variable [LawfulChoice α]

theorem ofText_eq_known_iff [Choice.Unambiguous α] (text : String) (value : α) :
    ofText text = known value ↔ text ∈ Choice.spellings value := by
  by_cases empty : text = ""
  · subst empty
    exact iff_of_false (by simp [ofText_empty]) (Choice.Unambiguous.empty_not_mem value)
  · rw [← Choice.parse?_eq_some_iff]
    cases parsed : (Choice.parse? text : Option α) with
    | some other => simp [ofText_of_parse empty parsed]
    | none => simp [ofText_of_parse_none empty parsed]

theorem ofText_eq_unrecognized_iff (text kept : String) :
    (ofText text : Setting α) = unrecognized kept ↔
      kept = text ∧ text ≠ "" ∧ ∀ value : α, text ∉ Choice.spellings value := by
  rw [← Choice.parse?_eq_none_iff]
  by_cases empty : text = ""
  · subst empty
    simp [ofText_empty]
  · cases parsed : (Choice.parse? text : Option α) with
    | some value => simp [ofText_of_parse empty parsed]
    | none => simp [ofText_of_parse_none empty parsed, empty, eq_comm]

theorem check_eq_oneOf (path : FieldPath) {setting : Setting α} (readable : setting.IsReadable) :
    Check.setting path setting = Check.oneOf path setting.text (Choice.names α) := by
  -- The cases are the settings. An unrecognized text is no name, since it is no spelling.
  cases setting with
  | missing => rfl
  | known value =>
      rw [Setting.text, Check.oneOf, if_neg (LawfulChoice.name_ne_empty value),
        if_pos (Choice.name_mem_names value)]
      rfl
  | unrecognized kept =>
      obtain ⟨text, same⟩ := readable
      obtain ⟨rfl, given, unspelled⟩ := (ofText_eq_unrecognized_iff text kept).mp same
      have unnamed : kept ∉ Choice.names α := by
        intro member
        obtain ⟨value, _, rfl⟩ := List.mem_map.mp member
        exact unspelled value List.mem_cons_self
      rw [Setting.text, Check.oneOf, if_neg given, if_neg unnamed]
      rfl

theorem faithful [Choice.Unambiguous α] : Faithful α where
  stable text := ofText_text (isReadable_ofText text)
  known_iff := ofText_eq_known_iff
  unrecognized_iff := ofText_eq_unrecognized_iff
  judged text path := check_eq_oneOf path (isReadable_ofText text)

/-- In each closed set of the configuration a setting is judged the same by its value and by its
text, and the text says which setting it is. -/
theorem closed_sets_faithful :
    Faithful Scope ∧ Faithful Toggle ∧ Faithful RunState ∧ Faithful ResourceLock :=
  ⟨faithful, faithful, faithful, faithful⟩

example : Check.setting (.ofRoot "scope") (ofText "Namespace" : Setting Scope) = [] ∧
    Check.oneOf (.ofRoot "scope") "Namespace" (Choice.names Scope) ≠ [] := by
  decide

end Setting

end FederationConfig
