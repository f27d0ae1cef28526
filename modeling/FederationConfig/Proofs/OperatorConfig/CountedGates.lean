import FederationConfig.Proofs.Feature.Resolution
import FederationConfig.Proofs.OperatorConfig.Duplicates

/-!
Which gates of an operator config count. A validation and a resolution agree about them: those
that are not reported as duplicates resolve to the same states as all of them, in any order.
-/

namespace FederationConfig

namespace FeatureGate

def unrepeated (gates : List FeatureGate) : List FeatureGate :=
  (gates.zipIdx.filter fun (gate, position) => ¬ IsRepeated gates position gate).map Prod.fst

theorem unrepeated_append (gates : List FeatureGate) (gate : FeatureGate) :
    unrepeated (gates ++ [gate]) =
      unrepeated gates ++ if gate.name ∈ gates.map name then [] else [gate] := by
  rw [unrepeated, List.zipIdx_append, List.filter_append, List.map_append, Nat.zero_add,
    List.zipIdx_singleton]
  congr 1
  · rw [unrepeated]
    congr 1
    apply List.filter_congr
    rintro ⟨other, position⟩ entry
    have place : gates[position]? = some other := List.mem_zipIdx_iff_getElem?.mp entry
    have inside := (List.getElem?_eq_some_iff.mp place).1
    simp only [isRepeated_append (Nat.le_of_lt inside)]
  · have last := isRepeated_behind gates gate [gate]
    by_cases repeated : gate.name ∈ gates.map name
    · simp [repeated, last]
    · simp [repeated, last]

theorem firstOf?_unrepeated (gates : List FeatureGate) (name : String) :
    firstOf? (unrepeated gates) name = firstOf? gates name := by
  induction gates using List.reverseRecOn with
  | nil => rfl
  | append_singleton gates gate ih =>
      rw [unrepeated_append]
      by_cases repeated : gate.name ∈ gates.map FeatureGate.name
      · rw [if_pos repeated, List.append_nil, ih, firstOf?_without_repeated repeated,
          List.append_nil]
      · rw [if_neg repeated, firstOf?_append, firstOf?_append, ih]

theorem mem_map_name_unrepeated (gates : List FeatureGate) (name : String) :
    name ∈ (unrepeated gates).map FeatureGate.name ↔ name ∈ gates.map FeatureGate.name := by
  rw [← not_iff_not, ← firstOf?_eq_none_iff, ← firstOf?_eq_none_iff, firstOf?_unrepeated]

theorem nodup_map_name_unrepeated (gates : List FeatureGate) :
    ((unrepeated gates).map name).Nodup := by
  induction gates using List.reverseRecOn with
  | nil => exact List.nodup_nil
  | append_singleton gates gate ih =>
      rw [unrepeated_append]
      by_cases repeated : gate.name ∈ gates.map name
      · rwa [if_pos repeated, List.append_nil]
      · have fresh := mt (mem_map_name_unrepeated gates gate.name).mp repeated
        rw [if_neg repeated, List.map_append, List.map_singleton, List.nodup_append_comm,
          List.singleton_append, List.nodup_cons]
        exact ⟨fresh, ih⟩

theorem firstOf?_eq_some_iff {gates : List FeatureGate} (distinct : (gates.map name).Nodup)
    (name : String) (gate : FeatureGate) :
    firstOf? gates name = some gate ↔ gate ∈ gates ∧ gate.name = name := by
  constructor
  · intro first
    exact ⟨List.mem_of_find?_eq_some first, name_of_firstOf? first⟩
  · rintro ⟨member, rfl⟩
    cases first : firstOf? gates gate.name with
    | none =>
        exact absurd (List.mem_map_of_mem member) ((firstOf?_eq_none_iff gates gate.name).mp first)
    | some other =>
        have found := List.mem_of_find?_eq_some first
        rw [List.inj_on_of_nodup_map distinct found member (name_of_firstOf? first)]

theorem firstOf?_perm {gates permuted : List FeatureGate} (distinct : (gates.map name).Nodup)
    (perm : permuted.Perm gates) (name : String) :
    firstOf? permuted name = firstOf? gates name := by
  have distinctToo := (perm.map FeatureGate.name).nodup_iff.mpr distinct
  apply Option.ext
  intro gate
  rw [firstOf?_eq_some_iff distinctToo, firstOf?_eq_some_iff distinct, perm.mem_iff]

end FeatureGate

namespace FeatureRegistry

theorem resolve_unrepeated (registry : FeatureRegistry) (gates : List FeatureGate) :
    registry.resolve (FeatureGate.unrepeated gates) = registry.resolve gates :=
  resolve_congr fun name _ => FeatureGate.firstOf?_unrepeated gates name

theorem resolve_perm (registry : FeatureRegistry) {gates permuted : List FeatureGate}
    (distinct : (gates.map FeatureGate.name).Nodup) (perm : permuted.Perm gates) :
    registry.resolve permuted = registry.resolve gates :=
  resolve_congr fun name _ => FeatureGate.firstOf?_perm distinct perm name

end FeatureRegistry

theorem Rule.duplicates_reports {rules : List Rule}
    (other : ∀ rule ∈ rules, rule.report.kind ≠ .duplicate) :
    (Rule.reports rules).duplicates = [] := by
  apply List.filter_eq_nil_iff.mpr
  intro violation reported
  obtain ⟨rule, member, _, rfl⟩ := (Rule.mem_reports rules violation).mp reported
  simpa using other rule member

theorem OperatorSpec.duplicates_violations (jitter : JitterFactor) (registry : FeatureRegistry)
    (spec : OperatorSpec) (path : FieldPath) :
    (spec.violations jitter registry path).duplicates =
      (FeatureGate.listViolations registry (path.child "featureGates") 0 []
        spec.featureGates).duplicates := by
  have delays : (spec.clusterDelays.violations (path.child "controllerDuration")).duplicates =
      [] := by
    rw [ClusterDelays.violations_eq_reports]
    exact Rule.duplicates_reports (by
      simp [ClusterDelays.rules, Rule.positiveDuration, Violation.invalid])
  have election : (spec.leaderElection.violations jitter (path.child "leaderElect")).duplicates =
      [] := by
    rw [LeaderElection.violations_eq_reports]
    exact Rule.duplicates_reports (by
      simp [LeaderElection.rules, Rule.positiveDuration, Rule.setting, Violation.invalid,
        Violation.required, Violation.notSupported])
  have health : (spec.healthCheck.violations (path.child "clusterHealthCheck")).duplicates =
      [] := by
    rw [HealthCheck.violations_eq_reports]
    exact Rule.duplicates_reports (by simp [HealthCheck.rules, Rule.positive, Violation.invalid])
  simp only [violations, Violations.duplicates_append, Check.duplicates_setting, delays, election,
    health, List.nil_append, List.append_nil]

/-- Whether the gate at a position of an operator config is reported as a duplicate. -/
def Violations.RepeatsGate (violations : Violations) (position : Nat) : Prop :=
  ∃ violation ∈ violations, violation.kind = .duplicate ∧ violation.field =
    (((FieldPath.ofRoot "spec").child "featureGates").item position).child "name"

instance (violations : Violations) (position : Nat) :
    Decidable (violations.RepeatsGate position) :=
  inferInstanceAs (Decidable (∃ violation ∈ violations, _))

namespace OperatorConfig

/-- The gates that a validation does not report as duplicates. -/
def countedGates (jitter : JitterFactor) (registry : FeatureRegistry) (config : OperatorConfig) :
    List FeatureGate :=
  (config.spec.featureGates.zipIdx.filter fun (_, position) =>
    ¬ (config.violations jitter registry).RepeatsGate position).map Prod.fst

theorem repeatsGate_iff (jitter : JitterFactor) (registry : FeatureRegistry)
    (config : OperatorConfig) (position : Nat) :
    (config.violations jitter registry).RepeatsGate position ↔
      ∃ gate, config.spec.featureGates[position]? = some gate ∧
        FeatureGate.IsRepeated config.spec.featureGates position gate := by
  constructor
  · rintro ⟨violation, reported, kind, field⟩
    have listed := (Violations.mem_duplicates _ violation).mpr ⟨reported, kind⟩
    rw [violations, OperatorSpec.duplicates_violations,
      FeatureGate.mem_duplicates_listViolations] at listed
    obtain ⟨place, gate, found, repeated, rfl⟩ := listed
    have same : place = position := by
      simpa [Violation.duplicate, FieldPath.child, FieldPath.item] using field
    exact ⟨gate, same ▸ found, same ▸ repeated⟩
  · rintro ⟨gate, found, repeated⟩
    have listed := (FeatureGate.mem_duplicates_listViolations registry
      ((FieldPath.ofRoot "spec").child "featureGates") _ _).mpr
      ⟨position, gate, found, repeated, rfl⟩
    rw [← OperatorSpec.duplicates_violations jitter] at listed
    obtain ⟨reported, kind⟩ := (Violations.mem_duplicates _ _).mp listed
    exact ⟨_, reported, kind, rfl⟩

theorem countedGates_eq (jitter : JitterFactor) (registry : FeatureRegistry)
    (config : OperatorConfig) :
    config.countedGates jitter registry = FeatureGate.unrepeated config.spec.featureGates := by
  rw [countedGates, FeatureGate.unrepeated]
  congr 1
  apply List.filter_congr
  rintro ⟨gate, position⟩ entry
  have place := List.mem_zipIdx_iff_getElem?.mp entry
  have reported := config.repeatsGate_iff jitter registry position
  rw [place] at reported
  simp [reported]

/-- Leaving out the gates that a validation reports as duplicates changes nothing in what the
gates resolve to, and neither does the order of those that are left. -/
theorem resolve_countedGates (jitter : JitterFactor) (registry : FeatureRegistry)
    (config : OperatorConfig) :
    registry.resolve (config.countedGates jitter registry) =
        registry.resolve config.spec.featureGates ∧
      ∀ permuted : List FeatureGate, permuted.Perm (config.countedGates jitter registry) →
        registry.resolve permuted = registry.resolve (config.countedGates jitter registry) := by
  rw [countedGates_eq]
  exact ⟨registry.resolve_unrepeated config.spec.featureGates, fun _ perm =>
    registry.resolve_perm (FeatureGate.nodup_map_name_unrepeated config.spec.featureGates) perm⟩

theorem resolve_countedGates_reordered :
    let first : FeatureGate := ⟨"FederatedIngress", .unrecognized "Sometimes"⟩
    let repeated : FeatureGate := ⟨"FederatedIngress", .known .disabled⟩
    let foreign : FeatureGate := ⟨"Ingress", .missing⟩
    let config : OperatorConfig := { spec := { featureGates := [first, repeated, foreign] } }
    config.countedGates .default .default = [first, foreign] ∧
      FeatureRegistry.default.resolve [foreign, first] =
        FeatureRegistry.default.resolve [first, repeated, foreign] := by
  intro first repeated foreign config
  have counted : config.countedGates .default .default = [first, foreign] := by
    rw [countedGates_eq]
    decide
  obtain ⟨reduced, reordered⟩ := resolve_countedGates .default .default config
  rw [counted] at reduced reordered
  exact ⟨counted, (reordered [foreign, first] (by decide)).trans reduced⟩

end OperatorConfig

end FederationConfig
