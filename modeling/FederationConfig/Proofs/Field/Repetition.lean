import FederationConfig.Check
import Mathlib.Data.List.Nodup

/-!
How often a field is reported. Violations of different branches of an object are about different
fields, so that each branch can be looked at on its own.
-/

namespace FederationConfig

namespace Violations

def about (violations : Violations) (place : FieldPath) : Violations :=
  violations.filter fun violation => violation.field = place

theorem about_append (front back : Violations) (place : FieldPath) :
    about (front ++ back) place = front.about place ++ back.about place :=
  List.filter_append front back

theorem about_eq_nil_iff (violations : Violations) (place : FieldPath) :
    violations.about place = [] ↔ ∀ violation ∈ violations, violation.field ≠ place := by
  simp [about]

/-- Violations at a path or below it. A field is reported once at most, or twice if it is one of
those that are checked twice, and no detail is given twice of a field. -/
structure Sparing (twice : List FieldPath) (path : FieldPath) (violations : Violations) :
    Prop where
  under : ∀ violation ∈ violations, ∃ rest, violation.field = ⟨path.root, path.below ++ rest⟩
  few : ∀ place, (violations.about place).length ≤ if place ∈ twice then 2 else 1
  unlike : ∀ place, ((violations.about place).map Violation.detail).Nodup

variable {twice : List FieldPath} {path : FieldPath} {violations front back : Violations}

theorem sparing_nil (twice : List FieldPath) (path : FieldPath) : Sparing twice path [] where
  under _ member := nomatch member
  few _ := Nat.zero_le _
  unlike _ := List.nodup_nil

theorem sparing_one {violation : Violation} (field : violation.field = path) :
    Sparing twice path [violation] where
  under other member := by
    rw [List.mem_singleton.mp member]
    exact ⟨[], by rw [field, List.append_nil]⟩
  few place := by
    apply Nat.le_trans (List.length_filter_le _ _)
    split
    · exact Nat.le_succ 1
    · exact Nat.le_refl 1
  unlike place := (List.nodup_singleton violation.detail).sublist
    (List.filter_sublist.map Violation.detail)

theorem sparing_when (broken : Prop) [Decidable broken] {violation : Violation}
    (field : violation.field = path) :
    Sparing twice path (if broken then [violation] else []) := by
  split
  · exact sparing_one field
  · exact sparing_nil twice path

theorem sparing_two {violation other : Violation} (field : violation.field = path)
    (fieldToo : other.field = path) (differ : violation.detail ≠ other.detail)
    (known : path ∈ twice) : Sparing twice path [violation, other] where
  under := by
    have own : path = ⟨path.root, path.below ++ []⟩ := by rw [List.append_nil]
    simp only [List.forall_mem_cons, List.not_mem_nil, false_implies, implies_true, and_true]
    exact ⟨⟨[], field.trans own⟩, ⟨[], fieldToo.trans own⟩⟩
  few place := by
    by_cases here : place = path
    · rw [here, if_pos known]
      exact List.length_filter_le _ _
    · have none : about [violation, other] place = [] := by
        simp [about, field, fieldToo, Ne.symm here]
      rw [none]
      exact Nat.zero_le _
  unlike place := by
    have unlike : ([violation, other].map Violation.detail).Nodup := by simp [differ]
    exact unlike.sublist (List.filter_sublist.map Violation.detail)

theorem Sparing.append (sparing : Sparing twice path front) (sparingToo : Sparing twice path back)
    (apart : ∀ violation ∈ front, ∀ other ∈ back, violation.field ≠ other.field) :
    Sparing twice path (front ++ back) := by
  have one (place : FieldPath) :
      about (front ++ back) place = front.about place ∨
        about (front ++ back) place = back.about place := by
    rw [about_append]
    by_cases seen : front.about place = []
    · rw [seen]
      exact .inr rfl
    · have none : back.about place = [] := by
        rw [about_eq_nil_iff] at seen ⊢
        intro other member same
        apply seen
        intro violation inside here
        exact apart violation inside other member (here.trans same.symm)
      rw [none, List.append_nil]
      exact .inl rfl
  constructor
  · exact List.forall_mem_append.mpr ⟨sparing.under, sparingToo.under⟩
  · intro place
    rcases one place with same | same
    · exact same ▸ sparing.few place
    · exact same ▸ sparingToo.few place
  · intro place
    rcases one place with same | same
    · exact same ▸ sparing.unlike place
    · exact same ▸ sparingToo.unlike place

theorem Sparing.widen {segment : PathSegment}
    (sparing : Sparing twice ⟨path.root, path.below ++ [segment]⟩ violations) :
    Sparing twice path violations where
  under violation member := by
    obtain ⟨rest, place⟩ := sparing.under violation member
    exact ⟨segment :: rest, by rw [place, List.append_assoc, List.singleton_append]⟩
  few := sparing.few
  unlike := sparing.unlike

theorem Sparing.perm (sparing : Sparing twice path front) (perm : front.Perm back) :
    Sparing twice path back where
  under violation member := sparing.under violation (perm.mem_iff.mpr member)
  few place := (perm.filter _).length_eq ▸ sparing.few place
  unlike place := ((perm.filter _).map Violation.detail).nodup_iff.mp (sparing.unlike place)

theorem sparing_branches (path : FieldPath) (branches : List (PathSegment × Violations))
    (parts : violations = branches.flatMap Prod.snd) (segments : (branches.map Prod.fst).Nodup)
    (each : branches.Forall fun branch =>
      Sparing twice ⟨path.root, path.below ++ [branch.1]⟩ branch.2) :
    Sparing twice path violations := by
  rw [List.forall_iff_forall_mem] at each
  subst parts
  -- Induction over the branches, which begin with different segments.
  induction branches with
  | nil => exact sparing_nil twice path
  | cons branch branches ih =>
      obtain ⟨fresh, later⟩ := List.nodup_cons.mp segments
      obtain ⟨first, rest⟩ := List.forall_mem_cons.mp each
      rw [List.flatMap_cons]
      apply first.widen.append (ih later rest)
      intro violation member other inside same
      obtain ⟨next, among, inside⟩ := List.mem_flatMap.mp inside
      obtain ⟨tail, place⟩ := first.under violation member
      obtain ⟨otherTail, otherPlace⟩ := (rest next among).under other inside
      rw [same, otherPlace] at place
      simp only [FieldPath.mk.injEq, List.append_assoc, List.append_cancel_left_eq,
        List.singleton_append, List.cons.injEq, true_and] at place
      exact fresh (place.1 ▸ List.mem_map_of_mem among)

theorem Sparing.nodup (sparing : Sparing twice path violations) : violations.Nodup := by
  rw [List.nodup_iff_count_le_one]
  intro violation
  have here : (violations.about violation.field).count violation = violations.count violation :=
    List.count_filter (decide_eq_true rfl)
  rw [← here]
  exact List.nodup_iff_count_le_one.mp (sparing.unlike violation.field).of_map violation

end Violations

open Violations (Sparing sparing_nil sparing_one sparing_when)

namespace Check

variable (twice : List FieldPath) (path : FieldPath)

theorem sparing_setting {α : Type} [Choice α] (value : Setting α) :
    Sparing twice path (setting path value) := by
  cases value with
  | missing => exact sparing_one rfl
  | known choice => exact sparing_nil twice path
  | unrecognized text => exact sparing_one rfl

theorem sparing_oneOf (value : String) (accepted : List String) :
    Sparing twice path (oneOf path value accepted) := by
  unfold oneOf
  split
  · exact sparing_one rfl
  · split
    · exact sparing_nil twice path
    · exact sparing_one rfl

theorem sparing_positive (value : Int64) : Sparing twice path (positive path value) :=
  sparing_when (value ≤ 0) rfl

theorem sparing_positiveDuration (value : Duration) :
    Sparing twice path (positiveDuration path value) :=
  sparing_when (value ≤ Duration.zero) rfl

theorem sparing_atLeastZero (value : Int64) : Sparing twice path (atLeastZero path value) :=
  sparing_when (value < 0) rfl

end Check

end FederationConfig
