import FederationConfig.Field.Path
import FederationConfig.Proofs.Text.Delimiter
import FederationConfig.Proofs.Text.Digits

/-!
Field paths and their texts. Steps to fields and to items are told apart by what they start with,
so that a path can be read off its text unless a name on it looks like a step.
-/

namespace FederationConfig

def PathSegment.isNameChar (c : Char) : Bool := !(c = '.' || c = '[')

/-- The name of a field does not look like a step. -/
def PathSegment.IsClear : PathSegment → Prop
  | field name => ∀ c ∈ name.toList, isNameChar c
  | index _ => True

namespace FieldPath

open PathSegment (isNameChar)
open Text (Stops stops_nil stops_cons)

theorem toList_renderBelow_field (name : String) (below : List PathSegment) :
    (renderBelow (.field name :: below)).toList =
      '.' :: (name.toList ++ (renderBelow below).toList) := by
  simp only [renderBelow, String.toList_append]
  rfl

theorem toList_renderBelow_index (position : Nat) (below : List PathSegment) :
    (renderBelow (.index position :: below)).toList =
      '[' :: (Nat.toDigits 10 position ++ ']' :: (renderBelow below).toList) := by
  simp only [renderBelow, String.toList_append, Nat.toList_repr, List.append_assoc]
  rfl

theorem toList_render (path : FieldPath) :
    path.render.toList = path.root.toList ++ (renderBelow path.below).toList := by
  rw [render, String.toList_append]

theorem stops_renderBelow (below : List PathSegment) :
    Stops isNameChar (renderBelow below).toList := by
  cases below with
  | nil => exact stops_nil isNameChar
  | cons segment below =>
      cases segment with
      | field name =>
          rw [toList_renderBelow_field]
          exact stops_cons rfl _
      | index position =>
          rw [toList_renderBelow_index]
          exact stops_cons rfl _

theorem bracket_not_mem_toDigits (n : Nat) : ']' ∉ Nat.toDigits 10 n :=
  fun member => nomatch Text.isDigit_of_mem_toDigits n ']' member

theorem renderBelow_cons_ne_nil (segment : PathSegment) (below : List PathSegment) :
    (renderBelow (segment :: below)).toList ≠ [] := by
  cases segment with
  | field name =>
      rw [toList_renderBelow_field]
      exact List.cons_ne_nil _ _
  | index position =>
      rw [toList_renderBelow_index]
      exact List.cons_ne_nil _ _

theorem renderBelow_cons_inj {segment other : PathSegment} {below others : List PathSegment}
    (clear : segment.IsClear) (clearToo : other.IsClear)
    (same : (renderBelow (segment :: below)).toList = (renderBelow (other :: others)).toList) :
    segment = other ∧ (renderBelow below).toList = (renderBelow others).toList := by
  cases segment with
  | field name =>
      rw [toList_renderBelow_field] at same
      cases other with
      | field another =>
          rw [toList_renderBelow_field] at same
          obtain ⟨names, rests⟩ := Text.append_stops_inj clear clearToo
            (stops_renderBelow below) (stops_renderBelow others) (List.cons.inj same).2
          exact ⟨congrArg PathSegment.field (String.toList_inj.mp names), rests⟩
      | index position =>
          rw [toList_renderBelow_index] at same
          cases (List.cons.inj same).1
  | index position =>
      rw [toList_renderBelow_index] at same
      cases other with
      | field another =>
          rw [toList_renderBelow_field] at same
          cases (List.cons.inj same).1
      | index another =>
          rw [toList_renderBelow_index] at same
          -- A position is read up to its bracket, and a name up to the step behind it.
          obtain ⟨digits, rests⟩ := Text.append_delimiter_inj
            (bracket_not_mem_toDigits position) (bracket_not_mem_toDigits another)
            (List.cons.inj same).2
          exact ⟨congrArg PathSegment.index (Text.toDigits_ten_inj digits), rests⟩

theorem renderBelow_inj {below others : List PathSegment}
    (clear : ∀ segment ∈ below, segment.IsClear)
    (clearToo : ∀ segment ∈ others, segment.IsClear)
    (same : (renderBelow below).toList = (renderBelow others).toList) : below = others := by
  induction below generalizing others with
  | nil =>
      cases others with
      | nil => rfl
      | cons other others => exact absurd same.symm (renderBelow_cons_ne_nil other others)
  | cons segment below ih =>
      cases others with
      | nil => exact absurd same (renderBelow_cons_ne_nil segment below)
      | cons other others =>
          obtain ⟨first, later⟩ := List.forall_mem_cons.mp clear
          obtain ⟨firstToo, laterToo⟩ := List.forall_mem_cons.mp clearToo
          obtain ⟨steps, rests⟩ := renderBelow_cons_inj first firstToo same
          rw [steps, ih later laterToo rests]

theorem render_inj_of_clear {path other : FieldPath}
    (clear : ∀ segment ∈ path.segments, segment.IsClear)
    (clearToo : ∀ segment ∈ other.segments, segment.IsClear)
    (same : path.render = other.render) : path = other := by
  obtain ⟨rootClear, belowClear⟩ := List.forall_mem_cons.mp clear
  obtain ⟨rootClearToo, belowClearToo⟩ := List.forall_mem_cons.mp clearToo
  have texts := congrArg String.toList same
  rw [toList_render, toList_render] at texts
  obtain ⟨roots, rests⟩ := Text.append_stops_inj rootClear rootClearToo
    (stops_renderBelow path.below) (stops_renderBelow other.below) texts
  have below := renderBelow_inj belowClear belowClearToo rests
  cases path
  cases other
  exact congr (congrArg mk (String.toList_inj.mp roots)) below

def IsStepFree (name : String) : Prop := '.' ∉ name.toList ∧ '[' ∉ name.toList

instance (name : String) : Decidable (IsStepFree name) := inferInstanceAs (Decidable (_ ∧ _))

theorem IsStepFree.isClear {name : String} (free : IsStepFree name) :
    (PathSegment.field name).IsClear := by
  intro c member
  have dot : c ≠ '.' := fun same => free.1 (same ▸ member)
  have bracket : c ≠ '[' := fun same => free.2 (same ▸ member)
  simp [isNameChar, dot, bracket]

theorem isClear_of_names {path : FieldPath}
    (names : ∀ name, .field name ∈ path.segments → IsStepFree name) :
    ∀ segment ∈ path.segments, segment.IsClear := by
  intro segment member
  cases segment with
  | field name => exact (names name member).isClear
  | index position => exact trivial

theorem mem_segments_extend (path : FieldPath) {segment last : PathSegment} :
    segment ∈ segments ⟨path.root, path.below ++ [last]⟩ ↔
      segment ∈ path.segments ∨ segment = last := by
  rw [segments, ← List.cons_append, List.mem_append, List.mem_singleton]
  rfl

def IsWord (name : String) : Prop := name ≠ "" ∧ name.toList.all Char.isAlpha

instance (name : String) : Decidable (IsWord name) := inferInstanceAs (Decidable (_ ∧ _))

theorem IsWord.isAlpha {name : String} (word : IsWord name) : ∀ c ∈ name.toList, c.isAlpha :=
  List.all_eq_true.mp word.2

theorem IsWord.isStepFree {name : String} (word : IsWord name) : IsStepFree name := by
  constructor
  · exact fun member => nomatch word.isAlpha '.' member
  · exact fun member => nomatch word.isAlpha '[' member

/-- Every name on the path is a word. -/
def IsPlain (path : FieldPath) : Prop := ∀ name, .field name ∈ path.segments → IsWord name

namespace IsPlain

variable {path : FieldPath}

theorem ofRoot {name : String} (word : IsWord name) : (ofRoot name).IsPlain := by
  intro other member
  cases List.mem_singleton.mp member
  exact word

theorem extend (plain : path.IsPlain) {segment : PathSegment}
    (word : ∀ name, segment = .field name → IsWord name) :
    IsPlain ⟨path.root, path.below ++ [segment]⟩ := by
  intro name member
  rcases (mem_segments_extend path).mp member with front | last
  · exact plain name front
  · exact word name last.symm

theorem child (plain : path.IsPlain) (name : String) (word : IsWord name) :
    (path.child name).IsPlain := by
  apply plain.extend
  rintro other same
  cases same
  exact word

theorem item (plain : path.IsPlain) (position : Nat) : (path.item position).IsPlain := by
  apply plain.extend
  rintro other same
  cases same

theorem isClear (plain : path.IsPlain) : ∀ segment ∈ path.segments, segment.IsClear :=
  isClear_of_names fun name member => (plain name member).isStepFree

end IsPlain

def isPathChar (c : Char) : Bool := c.isAlpha || c.isDigit || ['.', '[', ']'].contains c

theorem isPathChar_of_isAlpha {c : Char} (letter : c.isAlpha) : isPathChar c := by
  rw [isPathChar, letter, Bool.true_or, Bool.true_or]

theorem isPathChar_of_isDigit {c : Char} (digit : c.isDigit) : isPathChar c := by
  rw [isPathChar, digit, Bool.or_true, Bool.true_or]

theorem isPathChar_of_mem_renderBelow {below : List PathSegment}
    (words : ∀ name, .field name ∈ below → IsWord name) :
    ∀ c ∈ (renderBelow below).toList, isPathChar c := by
  induction below with
  | nil => exact fun _ member => nomatch member
  | cons segment below ih =>
      have later := ih fun name member => words name (List.mem_cons_of_mem _ member)
      cases segment with
      | field name =>
          have letters : ∀ c ∈ name.toList, isPathChar c := fun c member =>
            isPathChar_of_isAlpha ((words name List.mem_cons_self).isAlpha c member)
          rw [toList_renderBelow_field]
          exact List.forall_mem_cons.mpr ⟨rfl, List.forall_mem_append.mpr ⟨letters, later⟩⟩
      | index position =>
          have digits : ∀ c ∈ Nat.toDigits 10 position, isPathChar c := fun c member =>
            isPathChar_of_isDigit (Text.isDigit_of_mem_toDigits position c member)
          rw [toList_renderBelow_index]
          exact List.forall_mem_cons.mpr ⟨rfl, List.forall_mem_append.mpr
            ⟨digits, List.forall_mem_cons.mpr ⟨rfl, later⟩⟩⟩

namespace IsPlain

variable {path : FieldPath}

theorem isPathChar_of_mem_render (plain : path.IsPlain) :
    ∀ c ∈ path.render.toList, isPathChar c := by
  have root : ∀ c ∈ path.root.toList, isPathChar c := fun c member =>
    isPathChar_of_isAlpha ((plain path.root List.mem_cons_self).isAlpha c member)
  rw [toList_render]
  exact List.forall_mem_append.mpr ⟨root, isPathChar_of_mem_renderBelow fun name member =>
    plain name (List.mem_cons_of_mem _ member)⟩

theorem render_begins (plain : path.IsPlain) :
    ∃ c rest, path.render.toList = c :: rest ∧ c.isAlpha := by
  have word := plain path.root List.mem_cons_self
  have text : path.root.toList ≠ [] := fun empty => word.1 (String.toList_eq_nil_iff.mp empty)
  obtain ⟨c, rest, root⟩ := List.exists_cons_of_ne_nil text
  have letter : c.isAlpha := word.isAlpha c (root ▸ List.mem_cons_self)
  refine ⟨c, rest ++ (renderBelow path.below).toList, ?_, letter⟩
  rw [toList_render, root, List.cons_append]

end IsPlain

end FieldPath

end FederationConfig
