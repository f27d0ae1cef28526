import FederationConfig.Proofs.Text.Delimiter
import FederationConfig.Proofs.Text.Digits
import FederationConfig.Text.Escape

namespace FederationConfig.Text

theorem closing_not_mem_toDigits (n : Nat) : '\x7d' ∉ Nat.toDigits 16 n := by
  intro member
  obtain ⟨digit, same⟩ := exists_digitChar_of_mem_toDigits member
  have all : ∀ digit : Fin 16, '\x7d' ≠ digit.val.digitChar := by decide
  exact all digit same

def marks : List (Char × Char) :=
  [('\t', 't'), ('\r', 'r'), ('\n', 'n'), ('\'', '\''), ('"', '"'), ('\\', '\\')]

theorem fst_eq_of_mem_marks {c d mark : Char} (first : (c, mark) ∈ marks)
    (second : (d, mark) ∈ marks) : c = d := by
  have all : ∀ a ∈ marks, ∀ b ∈ marks, a.2 = b.2 → a.1 = b.1 := by decide
  exact all _ first _ second rfl

inductive EscapedForm : Char → List Char → Prop where
  | marked {c mark : Char} (short : (c, mark) ∈ marks) : EscapedForm c ['\\', mark]
  | plain {c : Char} (printable : isPrintableAscii c) (unquoted : c ≠ '"')
      (unescaped : c ≠ '\\') : EscapedForm c [c]
  | numbered (c : Char) : EscapedForm c (codePoint c)

theorem escapedForm_escapeChar (c : Char) : EscapedForm c (escapeChar c) := by
  rw [escapeChar]
  split
  case isTrue same => subst same; exact .marked (by decide)
  case isFalse =>
    split
    case isTrue same => subst same; exact .marked (by decide)
    case isFalse =>
      split
      case isTrue same => subst same; exact .marked (by decide)
      case isFalse =>
        split
        case isTrue same => rcases same with rfl | rfl | rfl <;> exact .marked (by decide)
        case isFalse other =>
          split
          case isTrue printable =>
            exact .plain printable (fun same => other (.inr (.inl same)))
              (fun same => other (.inr (.inr same)))
          case isFalse => exact .numbered c

namespace EscapedForm

variable {c d : Char} {form other back rest : List Char}

theorem exists_cons (escaped : EscapedForm c form) :
    ∃ first later, form = first :: later ∧ first ≠ '"' := by
  cases escaped with
  | marked short => exact ⟨'\\', _, rfl, by decide⟩
  | plain printable unquoted unescaped => exact ⟨c, [], rfl, unquoted⟩
  | numbered => exact ⟨'\\', _, rfl, by decide⟩

theorem printable (escaped : EscapedForm c form) : ∀ e ∈ form, isPrintableAscii e := by
  intro e member
  cases escaped with
  | marked short =>
      have all : ∀ pair ∈ marks, isPrintableAscii pair.2 := by decide
      cases member with
      | head => decide
      | tail _ later =>
          rw [List.mem_singleton.mp later]
          exact all _ short
  | plain printable unquoted unescaped =>
      rw [List.mem_singleton.mp member]
      exact printable
  | numbered =>
      have outer : ∀ e ∈ ['\\', 'u', '\x7b'] ++ ['\x7d'], isPrintableAscii e :=
        List.all_eq_true.mp rfl
      have digits : ∀ digit : Fin 16, isPrintableAscii digit.val.digitChar := by decide
      rcases List.mem_append.mp member with front | last
      · rcases List.mem_append.mp front with opening | inside
        · exact outer e (List.mem_append_left _ opening)
        · obtain ⟨digit, rfl⟩ := exists_digitChar_of_mem_toDigits inside
          exact digits digit
      · exact outer e (List.mem_append_right _ last)

theorem codePoint_append_inj (same : codePoint c ++ back = codePoint d ++ rest) :
    c = d ∧ back = rest := by
  simp only [codePoint, List.cons_append, List.nil_append, List.append_assoc, List.cons.injEq,
    true_and] at same
  obtain ⟨digits, tails⟩ := append_delimiter_inj (closing_not_mem_toDigits c.toNat)
    (closing_not_mem_toDigits d.toNat) same
  exact ⟨Char.toNat_inj.mp (toDigits_sixteen_inj digits), tails⟩

theorem marked_append_ne_codePoint {mark : Char} (short : (c, mark) ∈ marks) :
    ['\\', mark] ++ back ≠ codePoint d ++ rest := by
  intro same
  have marked : mark = 'u' := (List.cons.inj (List.cons.inj same).2).1
  have all : ∀ pair ∈ marks, pair.2 ≠ 'u' := by decide
  exact all _ short marked

theorem append_inj (escaped : EscapedForm c form) (escapedToo : EscapedForm d other)
    (same : form ++ back = other ++ rest) : c = d ∧ back = rest := by
  cases escaped with
  | marked short =>
      cases escapedToo with
      | marked shortToo =>
          obtain ⟨marked, tails⟩ := List.cons.inj (List.cons.inj same).2
          exact ⟨fst_eq_of_mem_marks short (marked ▸ shortToo), tails⟩
      | plain _ _ unescaped => exact absurd (List.cons.inj same).1.symm unescaped
      | numbered => exact absurd same (marked_append_ne_codePoint short)
  | plain _ _ unescaped =>
      cases escapedToo with
      | marked shortToo => exact absurd (List.cons.inj same).1 unescaped
      | plain _ _ _ => exact List.cons.inj same
      | numbered => exact absurd (List.cons.inj same).1 unescaped
  | numbered =>
      cases escapedToo with
      | marked shortToo => exact absurd same.symm (marked_append_ne_codePoint shortToo)
      | plain _ _ unescaped => exact absurd (List.cons.inj same).1.symm unescaped
      | numbered => exact codePoint_append_inj same

end EscapedForm

theorem printable_of_mem_escape {s : String} {c : Char} (member : c ∈ (escape s).toList) :
    isPrintableAscii c := by
  rw [escape, String.toList_ofList] at member
  obtain ⟨original, _, inside⟩ := List.mem_flatMap.mp member
  exact (escapedForm_escapeChar original).printable c inside

theorem flatMap_escapeChar_append_quote_inj {chars others back rest : List Char}
    (same : chars.flatMap escapeChar ++ '"' :: back = others.flatMap escapeChar ++ '"' :: rest) :
    chars = others ∧ back = rest := by
  induction chars generalizing others with
  | nil =>
      cases others with
      | nil => exact ⟨rfl, (List.cons.inj same).2⟩
      | cons d others =>
          obtain ⟨first, later, form, unquoted⟩ := (escapedForm_escapeChar d).exists_cons
          rw [List.flatMap_cons, form] at same
          exact absurd (List.cons.inj same).1.symm unquoted
  | cons c chars ih =>
      cases others with
      | nil =>
          obtain ⟨first, later, form, unquoted⟩ := (escapedForm_escapeChar c).exists_cons
          rw [List.flatMap_cons, form] at same
          exact absurd (List.cons.inj same).1 unquoted
      | cons d others =>
          rw [List.flatMap_cons, List.flatMap_cons, List.append_assoc, List.append_assoc] at same
          obtain ⟨rfl, tails⟩ :=
            (escapedForm_escapeChar c).append_inj (escapedForm_escapeChar d) same
          obtain ⟨rfl, rests⟩ := ih tails
          exact ⟨rfl, rests⟩

/-- A text in quotes ends at its second quote, and can be read back. -/
theorem escape_append_quote_inj {s t : String} {back rest : List Char}
    (same : (escape s).toList ++ '"' :: back = (escape t).toList ++ '"' :: rest) :
    s = t ∧ back = rest := by
  simp only [escape, String.toList_ofList] at same
  obtain ⟨texts, tails⟩ := flatMap_escapeChar_append_quote_inj same
  exact ⟨String.toList_inj.mp texts, tails⟩

end FederationConfig.Text
