import FederationConfig.Proofs.Text.Visible

namespace FederationConfig.Text

/-- What may stand between two quotes: every quote inside is escaped, and every backslash escapes a
character inside, so that none escapes the closing quote. -/
inductive IsQuotable : List Char → Prop where
  | nil : IsQuotable []
  | plain {c : Char} {rest : List Char} (unquoted : c ≠ '"') (unescaped : c ≠ '\\')
      (quotable : IsQuotable rest) : IsQuotable (c :: rest)
  | escaped (c : Char) {rest : List Char} (quotable : IsQuotable rest) :
      IsQuotable ('\\' :: c :: rest)

namespace IsQuotable

theorem append {front back : List Char} (first : IsQuotable front) (second : IsQuotable back) :
    IsQuotable (front ++ back) := by
  induction first with
  | nil => exact second
  | plain unquoted unescaped _ ih => exact .plain unquoted unescaped ih
  | escaped c _ ih => exact .escaped c ih

theorem of_plain {text : List Char} (plain : ∀ c ∈ text, c ≠ '"' ∧ c ≠ '\\') :
    IsQuotable text := by
  induction text with
  | nil => exact .nil
  | cons c rest ih =>
      obtain ⟨first, later⟩ := List.forall_mem_cons.mp plain
      exact .plain first.1 first.2 (ih later)

end IsQuotable

theorem EscapedForm.isQuotable {c : Char} {form : List Char} (escaped : EscapedForm c form) :
    IsQuotable form := by
  cases escaped with
  | marked short => exact .escaped _ .nil
  | plain printable unquoted unescaped => exact .plain unquoted unescaped .nil
  | numbered =>
      refine .escaped 'u' (.of_plain ?_)
      have digits : ∀ digit : Fin 16, digit.val.digitChar ≠ '"' ∧ digit.val.digitChar ≠ '\\' := by
        decide
      intro e member
      rcases List.mem_append.mp member with front | last
      · rcases List.mem_cons.mp front with rfl | inside
        · decide
        · obtain ⟨digit, rfl⟩ := exists_digitChar_of_mem_toDigits inside
          exact digits digit
      · rw [List.mem_singleton.mp last]
        decide

theorem isQuotable_escape (text : String) : IsQuotable (escape text).toList := by
  rw [escape, String.toList_ofList]
  induction text.toList with
  | nil => exact .nil
  | cons c rest ih =>
      rw [List.flatMap_cons]
      exact (escapedForm_escapeChar c).isQuotable.append ih

theorem exists_intercalate_eq (separator : String) {part : String} {parts : List String}
    (member : part ∈ parts) :
    ∃ front back, separator.intercalate parts = front ++ part ++ back := by
  induction parts with
  | nil => cases member
  | cons first later ih =>
      cases later with
      | nil =>
          rw [List.mem_singleton.mp member]
          exact ⟨"", "", by simp⟩
      | cons next later =>
          rw [String.intercalate_cons_cons]
          rcases List.mem_cons.mp member with rfl | inside
          · exact ⟨"", separator ++ separator.intercalate (next :: later),
              by simp [String.append_assoc]⟩
          · obtain ⟨front, back, joined⟩ := ih inside
            exact ⟨first ++ separator ++ front, back, by simp [joined, String.append_assoc]⟩

/-- The control characters of Unicode, line breaks and tabs among them. -/
def IsControl (c : Char) : Prop := c.toNat < 32 ∨ 127 ≤ c.toNat ∧ c.toNat < 160

theorem not_isControl_of_isVisible {c : Char} (visible : isVisible c) : ¬ IsControl c := by
  rw [isVisible, Bool.or_eq_true, isPrintableAscii_iff, decide_eq_true_iff] at visible
  rw [IsControl]
  rcases visible with printable | rfl
  · omega
  · decide

end FederationConfig.Text
