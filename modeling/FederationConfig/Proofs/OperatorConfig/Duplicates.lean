import FederationConfig.Proofs.OperatorConfig.Table
import Mathlib.Data.Finset.Card
import Mathlib.Data.List.Induction

namespace FederationConfig

def Violations.duplicates (violations : Violations) : Violations :=
  violations.filter fun violation => violation.kind = .duplicate

theorem Violations.mem_duplicates (violations : Violations) (violation : Violation) :
    violation ∈ violations.duplicates ↔ violation ∈ violations ∧ violation.kind = .duplicate := by
  simp [duplicates]

theorem Violations.duplicates_append (front back : Violations) :
    duplicates (front ++ back) = duplicates front ++ duplicates back :=
  List.filter_append front back

theorem Check.duplicates_setting {α : Type} [Choice α] (path : FieldPath) (value : Setting α) :
    (setting path value).duplicates = [] := by
  cases value <;> rfl

namespace FeatureGate

theorem isRepeated_append {gates : List FeatureGate} {position : Nat}
    (inside : position ≤ gates.length) (gate : FeatureGate) (later : List FeatureGate) :
    IsRepeated (gates ++ later) position gate ↔ IsRepeated gates position gate := by
  rw [IsRepeated, List.take_append_of_le_length inside]
  rfl

theorem isRepeated_behind (gates : List FeatureGate) (gate : FeatureGate)
    (later : List FeatureGate) :
    IsRepeated (gates ++ later) gates.length gate ↔ gate.name ∈ gates.map name := by
  rw [IsRepeated, List.take_left]

theorem violationsAt_append (registry : FeatureRegistry) {gates : List FeatureGate}
    (gate : FeatureGate) {position : Nat} (inside : position ≤ gates.length) (path : FieldPath)
    (later : List FeatureGate) :
    gate.violationsAt registry (gates ++ later) position path =
      gate.violationsAt registry gates position path := by
  have prior := isRepeated_append inside gate later
  by_cases repeated : IsRepeated gates position gate
  · rw [violationsAt, violationsAt, if_pos repeated, if_pos (prior.mpr repeated)]
  · rw [violationsAt, violationsAt, if_neg repeated, if_neg (mt prior.mp repeated)]

theorem listViolations_append (registry : FeatureRegistry) (path : FieldPath)
    (gates later : List FeatureGate) :
    listViolations registry path 0 [] (gates ++ later) =
      listViolations registry path 0 [] gates ++
        (later.zipIdx gates.length).flatMap fun (gate, position) =>
          gate.violationsAt registry (gates ++ later) position (path.item position) := by
  rw [listViolations_eq, listViolations_eq, List.zipIdx_append, List.flatMap_append, Nat.zero_add]
  congr 1
  apply List.flatMap_congr
  rintro ⟨gate, position⟩ entry
  have place : gates[position]? = some gate := List.mem_zipIdx_iff_getElem?.mp entry
  have inside := (List.getElem?_eq_some_iff.mp place).1
  exact violationsAt_append registry gate (Nat.le_of_lt inside) _ later

theorem duplicates_violationsAt (registry : FeatureRegistry) (gates : List FeatureGate)
    (gate : FeatureGate) (position : Nat) (path : FieldPath) :
    (gate.violationsAt registry gates position path).duplicates =
      if IsRepeated gates position gate then
        [.duplicate (path.child "name") (.text gate.name)]
      else [] := by
  by_cases repeated : IsRepeated gates position gate
  · rw [violationsAt, if_pos repeated, if_pos repeated]
    rfl
  · rw [violationsAt, if_neg repeated, if_neg repeated, Violations.duplicates_append,
      Check.duplicates_setting, List.append_nil]
    split
    · rfl
    · split
      · rfl
      · rfl

theorem duplicates_listViolations (registry : FeatureRegistry) (path : FieldPath)
    (gates : List FeatureGate) :
    (listViolations registry path 0 [] gates).duplicates =
      gates.zipIdx.flatMap fun (gate, position) =>
        if IsRepeated gates position gate then
          [.duplicate ((path.item position).child "name") (.text gate.name)]
        else [] := by
  rw [listViolations_eq, Violations.duplicates, List.filter_flatMap]
  apply List.flatMap_congr
  rintro ⟨gate, position⟩ _
  exact duplicates_violationsAt registry gates gate position (path.item position)

theorem mem_duplicates_listViolations (registry : FeatureRegistry) (path : FieldPath)
    (gates : List FeatureGate) (violation : Violation) :
    violation ∈ (listViolations registry path 0 [] gates).duplicates ↔
      ∃ position gate, gates[position]? = some gate ∧ IsRepeated gates position gate ∧
        violation = .duplicate ((path.item position).child "name") (.text gate.name) := by
  rw [duplicates_listViolations, List.mem_flatMap]
  constructor
  · rintro ⟨⟨gate, position⟩, entry, inside⟩
    simp only [List.mem_ite_nil_right, List.mem_singleton] at inside
    exact ⟨position, gate, List.mem_zipIdx_iff_getElem?.mp entry, inside⟩
  · rintro ⟨position, gate, place, repeated⟩
    refine ⟨(gate, position), List.mem_zipIdx_iff_getElem?.mpr place, ?_⟩
    simpa only [List.mem_ite_nil_right, List.mem_singleton] using repeated

theorem length_duplicates_append (registry : FeatureRegistry) (path : FieldPath)
    (gates : List FeatureGate) (gate : FeatureGate) :
    (listViolations registry path 0 [] (gates ++ [gate])).duplicates.length =
      (listViolations registry path 0 [] gates).duplicates.length +
        if gate.name ∈ gates.map name then 1 else 0 := by
  have last := isRepeated_behind gates gate [gate]
  rw [listViolations_append, Violations.duplicates_append, List.length_append,
    List.zipIdx_singleton, List.flatMap_singleton, duplicates_violationsAt]
  by_cases repeated : gate.name ∈ gates.map name
  · rw [if_pos repeated, if_pos (last.mpr repeated)]
    rfl
  · rw [if_neg repeated, if_neg (mt last.mp repeated)]
    rfl

theorem length_duplicates_add_card (registry : FeatureRegistry) (path : FieldPath)
    (gates : List FeatureGate) :
    (listViolations registry path 0 [] gates).duplicates.length +
      (gates.map name).toFinset.card = gates.length := by
  -- From the front: a gate is a duplicate or brings a new name.
  induction gates using List.reverseRecOn with
  | nil => rfl
  | append_singleton gates gate ih =>
      rw [length_duplicates_append, List.length_append, List.length_singleton, List.map_append,
        List.toFinset_append, List.map_singleton, List.toFinset_cons, List.toFinset_nil,
        Finset.insert_empty, Finset.union_singleton]
      by_cases repeated : gate.name ∈ gates.map name
      · have known : gate.name ∈ (gates.map name).toFinset := List.mem_toFinset.mpr repeated
        rw [if_pos repeated, Finset.insert_eq_of_mem known]
        omega
      · have fresh : gate.name ∉ (gates.map name).toFinset := mt List.mem_toFinset.mp repeated
        rw [if_neg repeated, Finset.card_insert_of_notMem fresh]
        omega

theorem length_duplicates_perm (registry : FeatureRegistry) (path : FieldPath)
    {gates permuted : List FeatureGate} (perm : permuted.Perm gates) :
    (listViolations registry path 0 [] permuted).duplicates.length =
      (listViolations registry path 0 [] gates).duplicates.length := by
  have count := length_duplicates_add_card registry path gates
  have countToo := length_duplicates_add_card registry path permuted
  rw [List.toFinset_eq_of_perm _ _ (perm.map name), perm.length_eq] at countToo
  omega

/-- Each gate is checked by its position. There are as many duplicates as gates beyond the
different names, in whatever order, and gates that are appended change nothing that is reported
of those in front of them. -/
theorem listViolations_by_position (registry : FeatureRegistry) (path : FieldPath)
    (gates : List FeatureGate) :
    listViolations registry path 0 [] gates =
        (gates.zipIdx.flatMap fun (gate, position) =>
          gate.violationsAt registry gates position (path.item position)) ∧
      (listViolations registry path 0 [] gates).duplicates.length +
        (gates.map name).toFinset.card = gates.length ∧
      (∀ permuted : List FeatureGate, permuted.Perm gates →
        (listViolations registry path 0 [] permuted).duplicates.length =
          (listViolations registry path 0 [] gates).duplicates.length) ∧
      ∀ later : List FeatureGate,
        listViolations registry path 0 [] (gates ++ later) =
          listViolations registry path 0 [] gates ++
            (later.zipIdx gates.length).flatMap fun (gate, position) =>
              gate.violationsAt registry (gates ++ later) position (path.item position) :=
  ⟨listViolations_eq registry path gates, length_duplicates_add_card registry path gates,
    fun _ perm => length_duplicates_perm registry path perm,
    listViolations_append registry path gates⟩

theorem duplicates_of_reordered_gates :
    let wrong : FeatureGate := ⟨"PushReconciler", .unrecognized "Sometimes"⟩
    let right : FeatureGate := ⟨"PushReconciler", .known .enabled⟩
    let nameless : FeatureGate := ⟨"", .missing⟩
    let violations := listViolations .default (.ofRoot "gates") 0 []
    [right, nameless, wrong].Perm [wrong, nameless, right] ∧
      violations [wrong, nameless, right] ≠ violations [right, nameless, wrong] ∧
      (violations [wrong, nameless, right]).duplicates.length = 1 ∧
      (violations [right, nameless, wrong]).duplicates.length = 1 := by
  intro wrong right nameless violations
  have perm : [right, nameless, wrong].Perm [wrong, nameless, right] := by decide
  have one : (violations [wrong, nameless, right]).duplicates.length = 1 := by decide
  obtain ⟨_, _, reordered, _⟩ :=
    listViolations_by_position .default (.ofRoot "gates") [wrong, nameless, right]
  exact ⟨perm, by decide, one, (reordered _ perm).trans one⟩

end FeatureGate

end FederationConfig
