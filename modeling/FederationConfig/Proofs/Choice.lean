import FederationConfig.Choice

namespace FederationConfig

/-- A closed set in which each value is found under its name. -/
class LawfulChoice (α : Type) [Choice α] : Prop where
  name_ne_empty : ∀ value : α, Choice.name value ≠ ""
  parse?_name : ∀ value : α, Choice.parse? (Choice.name value) = some value

instance : LawfulChoice Scope where
  name_ne_empty value := by cases value <;> decide
  parse?_name value := by cases value <;> decide

instance : LawfulChoice Toggle where
  name_ne_empty value := by cases value <;> decide
  parse?_name value := by cases value <;> decide

instance : LawfulChoice RunState where
  name_ne_empty value := by cases value <;> decide
  parse?_name value := by cases value <;> decide

instance : LawfulChoice ResourceLock where
  name_ne_empty value := by cases value <;> decide
  parse?_name value := by cases value <;> decide

namespace Setting

variable {α : Type} [Choice α]

def IsReadable (setting : Setting α) : Prop := ∃ text, ofText text = setting

theorem isReadable_ofText (text : String) : (ofText text : Setting α).IsReadable := ⟨text, rfl⟩

theorem isReadable_missing : (missing : Setting α).IsReadable := ⟨"", rfl⟩

variable [LawfulChoice α]

theorem ofText_text {setting : Setting α} (readable : setting.IsReadable) :
    ofText setting.text = setting := by
  obtain ⟨text, rfl⟩ := readable
  by_cases empty : text = ""
  · have absent : (ofText text : Setting α) = missing := by rw [ofText, if_pos empty]
    rw [absent]
    rfl
  · cases parsed : (Choice.parse? text : Option α) with
    | none =>
        have kept : (ofText text : Setting α) = unrecognized text := by
          rw [ofText, if_neg empty, parsed]
        rw [kept]
        exact kept
    | some value =>
        have named : (ofText text : Setting α) = known value := by
          rw [ofText, if_neg empty, parsed]
        rw [named, Setting.text, ofText, if_neg (LawfulChoice.name_ne_empty value),
          LawfulChoice.parse?_name]

end Setting

end FederationConfig
