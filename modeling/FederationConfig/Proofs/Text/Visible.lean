import FederationConfig.Proofs.Text.Escape

namespace FederationConfig.Text

def IsOf (kind : Char → Prop) (text : String) : Prop := ∀ c ∈ text.toList, kind c

namespace IsOf

variable {kind other : Char → Prop} {text later : String}

theorem empty (kind : Char → Prop) : IsOf kind "" := fun _ member => nomatch member

theorem append_iff : IsOf kind (text ++ later) ↔ IsOf kind text ∧ IsOf kind later := by
  rw [IsOf, String.toList_append]
  exact List.forall_mem_append

theorem append (first : IsOf kind text) (second : IsOf kind later) : IsOf kind (text ++ later) :=
  append_iff.mpr ⟨first, second⟩

theorem mono (weaker : ∀ c, kind c → other c) (all : IsOf kind text) : IsOf other text :=
  fun c member => weaker c (all c member)

theorem intercalate {separator : String} {parts : List String} (between : IsOf kind separator)
    (all : ∀ part ∈ parts, IsOf kind part) : IsOf kind (separator.intercalate parts) := by
  induction parts with
  | nil =>
      rw [String.intercalate_nil]
      exact empty kind
  | cons part parts ih =>
      obtain ⟨first, later⟩ := List.forall_mem_cons.mp all
      cases parts with
      | nil =>
          rw [String.intercalate_singleton]
          exact first
      | cons next parts =>
          rw [String.intercalate_cons_cons]
          exact (first.append between).append (ih later)

end IsOf

/-- Printable ASCII, or the micro sign of a duration. -/
def isVisible (c : Char) : Bool := isPrintableAscii c || c = '\u00b5'

theorem isPrintableAscii_iff (c : Char) :
    isPrintableAscii c ↔ 32 ≤ c.toNat ∧ c.toNat ≤ 126 := by
  rw [isPrintableAscii, Bool.and_eq_true, decide_eq_true_iff, decide_eq_true_iff]
  rfl

theorem isPrintableAscii_of_isDigit {c : Char} (digit : c.isDigit) : isPrintableAscii c := by
  have bounds := bounds_of_isDigit digit
  rw [isPrintableAscii_iff]
  omega

theorem isPrintableAscii_of_isAlpha {c : Char} (letter : c.isAlpha) : isPrintableAscii c := by
  have between {low high : UInt32} (above : low ≤ c.val) (below : c.val ≤ high) :
      low.toNat ≤ c.toNat ∧ c.toNat ≤ high.toNat :=
    ⟨UInt32.le_iff_toNat_le.mp above, UInt32.le_iff_toNat_le.mp below⟩
  rw [isPrintableAscii_iff]
  rcases (Bool.or_eq_true _ _).mp letter with upper | lower
  · obtain ⟨above, below⟩ := of_decide_eq_true upper
    have bounds : 65 ≤ c.toNat ∧ c.toNat ≤ 90 := between above below
    omega
  · have parts : decide ('a'.val ≤ c.val) = true ∧ decide (c.val ≤ 'z'.val) = true :=
      (Bool.and_eq_true _ _).mp lower
    have bounds : 97 ≤ c.toNat ∧ c.toNat ≤ 122 :=
      between (of_decide_eq_true parts.1) (of_decide_eq_true parts.2)
    omega

theorem isVisible_of_isPrintableAscii {c : Char} (printable : isPrintableAscii c) :
    isVisible c := by
  rw [isVisible, printable, Bool.true_or]

theorem isOf_escape (text : String) : IsOf (fun c => isVisible c) (escape text) :=
  fun _ member => isVisible_of_isPrintableAscii (printable_of_mem_escape member)

def IsLineBreak (c : Char) : Prop := c = '\n' ∨ c = '\r'

instance (c : Char) : Decidable (IsLineBreak c) := inferInstanceAs (Decidable (_ ∨ _))

def Unbroken (text : String) : Prop := IsOf (fun c => ¬ IsLineBreak c) text

theorem all_iff_unbroken (text : String) :
    (text.toList.all fun c => decide ¬ IsLineBreak c) = true ↔ Unbroken text := by
  simp only [List.all_eq_true, decide_eq_true_eq]
  rfl

instance (text : String) : Decidable (Unbroken text) := decidable_of_iff _ (all_iff_unbroken text)

end FederationConfig.Text
