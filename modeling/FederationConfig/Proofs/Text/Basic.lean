import FederationConfig.Text.Basic
import Mathlib.Data.List.Basic

namespace FederationConfig.Text

theorem intercalate_cons {α : Type} (separator : α) (first : List α) (others : List (List α)) :
    [separator].intercalate (first :: others) =
      first ++ (others.map (separator :: ·)).flatten := by
  induction others generalizing first with
  | nil => simp
  | cons next others ih =>
      rw [List.intercalate_cons_cons, ih]
      simp

variable {α : Type} [DecidableEq α] {separator : α}

theorem split_eq_splitOn (separator : α) (text : List α) :
    split separator text = text.splitOn separator := by
  induction text with
  | nil => rfl
  | cons c rest ih =>
      obtain ⟨first, others, parts⟩ :=
        List.exists_cons_of_ne_nil (List.splitOn_ne_nil separator rest)
      rw [split, ih, parts, List.splitOn_cons_eq_if_modifyHead, parts]
      by_cases stop : c = separator
      · simp [stop]
      · simp [stop]

theorem split_ne_nil (separator : α) (text : List α) : split separator text ≠ [] := by
  rw [split_eq_splitOn]
  exact List.splitOn_ne_nil separator text

theorem split_cons_separator (separator : α) (rest : List α) :
    split separator (separator :: rest) = [] :: split separator rest := by
  simp [split]

theorem split_cons_of_ne {c : α} {rest first : List α} {others : List (List α)}
    (differs : c ≠ separator) (parts : split separator rest = first :: others) :
    split separator (c :: rest) = (c :: first) :: others := by
  simp [split, differs, parts]

theorem split_of_not_mem {text : List α} (absent : separator ∉ text) :
    split separator text = [text] := by
  rw [split_eq_splitOn, List.splitOn_eq_singleton absent]

theorem intercalate_split (separator : α) (text : List α) :
    [separator].intercalate (split separator text) = text := by
  rw [split_eq_splitOn, List.intercalate_splitOn]

theorem mem_split (separator : α) {text : List α} {c : α} (member : c ∈ text) :
    c = separator ∨ ∃ part ∈ split separator text, c ∈ part := by
  induction text with
  | nil => cases member
  | cons d rest ih =>
      obtain ⟨first, others, parts⟩ := List.exists_cons_of_ne_nil (split_ne_nil separator rest)
      by_cases stop : d = separator
      · subst stop
        rw [split_cons_separator]
        rcases List.mem_cons.mp member with rfl | later
        · exact .inl rfl
        · exact (ih later).imp_right fun found => by simpa using found
      · rw [split_cons_of_ne stop parts]
        rw [parts] at ih
        rcases List.mem_cons.mp member with rfl | later
        · exact .inr ⟨c :: first, List.mem_cons_self, List.mem_cons_self⟩
        · simp only [List.exists_mem_cons_iff] at ih ⊢
          exact (ih later).imp_right fun found => found.imp_left (List.mem_cons_of_mem d)

theorem split_intercalate {parts : List (List α)} (given : parts ≠ [])
    (absent : ∀ part ∈ parts, separator ∉ part) :
    split separator ([separator].intercalate parts) = parts := by
  rw [split_eq_splitOn, List.splitOn_intercalate separator absent given]

theorem length_split (separator : α) (text : List α) :
    (split separator text).length = text.count separator + 1 := by
  induction text with
  | nil => rfl
  | cons c rest ih =>
      obtain ⟨first, others, parts⟩ := List.exists_cons_of_ne_nil (split_ne_nil separator rest)
      by_cases stop : c = separator
      · subst stop
        simp [split_cons_separator, ih]
      · rw [split_cons_of_ne stop parts, List.count_cons_of_ne stop, ← ih, parts]
        rfl

theorem trimStart_cons {c : Char} (visible : isBlank c = false) (rest : List Char) :
    trimStart (c :: rest) = c :: rest :=
  List.dropWhile_cons_of_neg (by simp [visible])

theorem trimEnd_append {c : Char} (visible : isBlank c = false) (front : List Char) :
    trimEnd (front ++ [c]) = front ++ [c] := by
  rw [trimEnd, List.reverse_append, List.reverse_singleton, List.singleton_append,
    trimStart_cons visible, List.reverse_cons, List.reverse_reverse]

theorem trim_eq_self {cs rest front : List Char} {first last : Char} (start : cs = first :: rest)
    (firstVisible : isBlank first = false) (stop : cs = front ++ [last])
    (lastVisible : isBlank last = false) : trim cs = cs := by
  have kept : trimStart cs = cs := by rw [start, trimStart_cons firstVisible]
  rw [trim, kept, stop, trimEnd_append lastVisible]

theorem isBlank_eq_false_of_isDigit {c : Char} (digit : c.isDigit) : isBlank c = false := by
  have bounds : 48 ≤ c.toNat ∧ c.toNat ≤ 57 := by
    simpa [Char.isDigit, UInt32.le_iff_toNat_le] using digit
  simp [isBlank]
  omega

end FederationConfig.Text
