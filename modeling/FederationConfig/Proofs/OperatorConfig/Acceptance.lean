import FederationConfig.Proofs.OperatorConfig.Table

namespace FederationConfig

theorem ClusterDelays.under_rules (delays : ClusterDelays) (path : FieldPath) :
    Rule.Under path (delays.rules path) := by
  simp [Rule.Under, rules, Rule.positiveDuration, Violation.invalid, FieldPath.child]

theorem ClusterDelays.distinct_rules (delays : ClusterDelays) (path : FieldPath) :
    Rule.Distinct (delays.rules path) := by
  simp [Rule.Distinct, rules, Rule.positiveDuration, Violation.invalid, FieldPath.child]

theorem LeaderElection.under_rules (jitter : JitterFactor) (election : LeaderElection)
    (path : FieldPath) : Rule.Under path (election.rules jitter path) := by
  simp [Rule.Under, rules, Rule.positiveDuration, Rule.setting, Violation.invalid,
    Violation.required, Violation.notSupported, FieldPath.child]

theorem LeaderElection.distinct_rules (jitter : JitterFactor) (election : LeaderElection)
    (path : FieldPath) : Rule.Distinct (election.rules jitter path) := by
  simp [Rule.Distinct, rules, Rule.positiveDuration, Rule.setting, Violation.invalid,
    Violation.required, Violation.notSupported, FieldPath.child, Check.greaterThanZero,
    leaseRule, renewRule]

theorem HealthCheck.under_rules (check : HealthCheck) (path : FieldPath) :
    Rule.Under path (check.rules path) := by
  simp [Rule.Under, rules, Rule.positive, Violation.invalid, FieldPath.child]

theorem HealthCheck.distinct_rules (check : HealthCheck) (path : FieldPath) :
    Rule.Distinct (check.rules path) := by
  simp [Rule.Distinct, rules, Rule.positive, Violation.invalid, FieldPath.child]

namespace FeatureGate

theorem under_rules (registry : FeatureRegistry) (gates : List FeatureGate)
    (gate : FeatureGate) (position : Nat) (path : FieldPath) :
    Rule.Under path (gate.rules registry gates position path) := by
  simp [Rule.Under, rules, Violation.duplicate, Violation.required, Violation.notSupported,
    FieldPath.child]

theorem distinct_rules (registry : FeatureRegistry) (gates : List FeatureGate)
    (gate : FeatureGate) (position : Nat) (path : FieldPath) :
    Rule.Distinct (gate.rules registry gates position path) := by
  simp [Rule.Distinct, rules, Violation.duplicate, Violation.required, Violation.notSupported,
    FieldPath.child]

theorem under_listRules (registry : FeatureRegistry) (path : FieldPath)
    (gates : List FeatureGate) : Rule.Under path (listRules registry path gates) := by
  intro rule member
  obtain ⟨⟨gate, position⟩, _, member⟩ := List.mem_flatMap.mp member
  exact Rule.Under.widen (under_rules registry gates gate position (path.item position)) rule member

theorem distinct_listRules (registry : FeatureRegistry) (path : FieldPath)
    (gates : List FeatureGate) : Rule.Distinct (listRules registry path gates) := by
  have branches := Rule.distinct_branches path
    (gates.zipIdx.map fun entry =>
      (.index entry.2, entry.1.rules registry gates entry.2 (path.item entry.2)))
  rw [List.flatMap_map] at branches
  apply branches
  · have positions : (gates.zipIdx.map Prod.snd).Nodup := by
      rw [List.zipIdx_map_snd]
      exact List.nodup_range'
    rw [List.map_map]
    exact List.pairwise_map.mpr ((List.pairwise_map.mp positions).imp fun differ same =>
      differ (PathSegment.index.inj same))
  · intro branch member
    obtain ⟨⟨gate, position⟩, _, rfl⟩ := List.mem_map.mp member
    exact under_rules registry gates gate position (path.item position)
  · intro branch member
    obtain ⟨⟨gate, position⟩, _, rfl⟩ := List.mem_map.mp member
    exact distinct_rules registry gates gate position (path.item position)

end FeatureGate

theorem OperatorSpec.distinct_rules (jitter : JitterFactor) (registry : FeatureRegistry)
    (spec : OperatorSpec) (path : FieldPath) :
    Rule.Distinct (spec.rules jitter registry path) := by
  have branches := Rule.distinct_branches path
    [(.field "scope", Rule.setting (path.child "scope") spec.scope),
      (.field "controllerDuration", spec.clusterDelays.rules (path.child "controllerDuration")),
      (.field "leaderElect", spec.leaderElection.rules jitter (path.child "leaderElect")),
      (.field "featureGates",
        FeatureGate.listRules registry (path.child "featureGates") spec.featureGates),
      (.field "clusterHealthCheck", spec.healthCheck.rules (path.child "clusterHealthCheck")),
      (.field "syncController", Rule.setting ((path.child "syncController").child "adoptResources")
        spec.syncPolicy.adoptResources)]
  simp only [List.flatMap_cons, List.flatMap_nil, List.append_nil, List.forall_mem_cons,
    List.not_mem_nil, false_implies, implies_true, and_true, ← List.append_assoc] at branches
  apply branches
  · simp
  · exact ⟨Rule.under_setting _ _, ClusterDelays.under_rules _ _, LeaderElection.under_rules _ _ _,
      FeatureGate.under_listRules _ _ _, HealthCheck.under_rules _ _,
      Rule.Under.widen (Rule.under_setting _ _)⟩
  · exact ⟨Rule.distinct_setting _ _, ClusterDelays.distinct_rules _ _,
      LeaderElection.distinct_rules _ _ _, FeatureGate.distinct_listRules _ _ _,
      HealthCheck.distinct_rules _ _, Rule.distinct_setting _ _⟩

namespace FeatureGate

theorem isRepeated_iff (gates : List FeatureGate) (position : Nat) (gate : FeatureGate) :
    IsRepeated gates position gate ↔
      ∃ earlier < position, (gates.map name)[earlier]? = some gate.name := by
  rw [IsRepeated, List.map_take, List.mem_iff_getElem?]
  constructor
  · rintro ⟨earlier, found⟩
    by_cases before : earlier < position
    · exact ⟨earlier, before, by rwa [List.getElem?_take_of_lt before] at found⟩
    · rw [List.getElem?_take_eq_none (Nat.le_of_not_lt before)] at found
      cases found
  · rintro ⟨earlier, before, found⟩
    exact ⟨earlier, by rwa [List.getElem?_take_of_lt before]⟩

theorem forall_not_isRepeated_iff (gates : List FeatureGate) :
    (∀ entry ∈ gates.zipIdx, ¬ IsRepeated gates entry.2 entry.1) ↔
      (gates.map name).Nodup := by
  rw [List.nodup_iff_getElem?_ne_getElem?]
  constructor
  · intro fresh earlier position before inside same
    rw [List.length_map] at inside
    have entry : (gates[position], position) ∈ gates.zipIdx :=
      List.mem_zipIdx_iff_getElem?.mpr (List.getElem?_eq_getElem inside)
    apply fresh _ entry
    rw [isRepeated_iff]
    exact ⟨earlier, before, by rw [same, List.getElem?_map, List.getElem?_eq_getElem inside]; rfl⟩
  · rintro distinct ⟨gate, position⟩ entry repeated
    have place : gates[position]? = some gate := List.mem_zipIdx_iff_getElem?.mp entry
    obtain ⟨earlier, before, same⟩ := (isRepeated_iff gates position gate).mp repeated
    have inside : position < (gates.map name).length := by
      rw [List.length_map]
      exact (List.getElem?_eq_some_iff.mp place).1
    apply distinct earlier position before inside
    rw [same, List.getElem?_map, place]
    rfl

theorem kept_rules (registry : FeatureRegistry) (gates : List FeatureGate) (gate : FeatureGate)
    (position : Nat) (path : FieldPath) :
    Rule.Kept (gate.rules registry gates position path) ↔
      ¬ IsRepeated gates position gate ∧ gate.name ≠ "" ∧ gate.name ∈ registry.names ∧
        gate.configuration.isKnown := by
  simp only [rules, Rule.kept_cons, Rule.when_broken, and_iff_left Rule.kept_nil,
    Setting.isKnown_iff]
  constructor
  · rintro ⟨fresh, named, listed, given, recognized⟩
    have named : gate.name ≠ "" := fun empty => named ⟨fresh, empty⟩
    exact ⟨fresh, named, Decidable.not_not.mp fun unknown => listed ⟨fresh, named, unknown⟩,
      fun missing => given ⟨fresh, missing⟩, fun other => recognized ⟨fresh, other⟩⟩
  · rintro ⟨fresh, named, listed, given, recognized⟩
    exact ⟨fresh, fun broken => named broken.2, fun broken => broken.2.2 listed,
      fun broken => given broken.2, fun broken => recognized broken.2⟩

theorem kept_listRules (registry : FeatureRegistry) (path : FieldPath) (gates : List FeatureGate) :
    Rule.Kept (listRules registry path gates) ↔
      (gates.map name).Nodup ∧
        (∀ gate ∈ gates, gate.name ≠ "" ∧ gate.name ∈ registry.names) ∧
        ∀ gate ∈ gates, gate.configuration.isKnown := by
  have each : Rule.Kept (listRules registry path gates) ↔ ∀ entry ∈ gates.zipIdx,
      Rule.Kept (entry.1.rules registry gates entry.2 (path.item entry.2)) := by
    simp only [Rule.Kept, listRules, List.mem_flatMap]
    constructor
    · intro kept entry member rule inside
      exact kept rule ⟨entry, member, inside⟩
    · rintro kept rule ⟨entry, member, inside⟩
      exact kept entry member rule inside
  have entries (holds : FeatureGate → Prop) :
      (∀ entry ∈ gates.zipIdx, holds entry.1) ↔ ∀ gate ∈ gates, holds gate := by
    rw [← List.forall_mem_map, List.zipIdx_map_fst]
  simp only [each, kept_rules]
  constructor
  · intro kept
    exact ⟨(forall_not_isRepeated_iff gates).mp fun entry member => (kept entry member).1,
      (entries fun gate => gate.name ≠ "" ∧ gate.name ∈ registry.names).mp fun entry member =>
        ⟨(kept entry member).2.1, (kept entry member).2.2.1⟩,
      (entries fun gate => gate.configuration.isKnown).mp fun entry member =>
        (kept entry member).2.2.2⟩
  · rintro ⟨names, registered, known⟩ entry member
    have inside : entry.1 ∈ gates := List.mem_of_getElem? (List.mem_zipIdx_iff_getElem?.mp member)
    exact ⟨(forall_not_isRepeated_iff gates).mpr names entry member, (registered _ inside).1,
      (registered _ inside).2, known _ inside⟩

end FeatureGate

/-- What is asked of an operator config. -/
structure OperatorConfig.Sound (jitter : JitterFactor) (registry : FeatureRegistry)
    (config : OperatorConfig) : Prop where
  scope : config.spec.scope.isKnown
  availableDelay : Duration.zero < config.spec.clusterDelays.availableDelay
  unavailableDelay : Duration.zero < config.spec.clusterDelays.unavailableDelay
  leaseDuration : Duration.zero < config.spec.leaderElection.leaseDuration
  renewDeadline : Duration.zero < config.spec.leaderElection.renewDeadline
  retryPeriod : Duration.zero < config.spec.leaderElection.retryPeriod
  leaseOutlasts :
    config.spec.leaderElection.renewDeadline < config.spec.leaderElection.leaseDuration
  renewOutlasts : jitter.isOutlasted config.spec.leaderElection.renewDeadline
    config.spec.leaderElection.retryPeriod
  resourceLock : config.spec.leaderElection.resourceLock.isKnown
  gateNames : (config.spec.featureGates.map FeatureGate.name).Nodup
  gatesRegistered : ∀ gate ∈ config.spec.featureGates, gate.name ≠ "" ∧ gate.name ∈ registry.names
  gatesKnown : ∀ gate ∈ config.spec.featureGates, gate.configuration.isKnown
  periodSeconds : 0 < config.spec.healthCheck.periodSeconds
  failureThreshold : 0 < config.spec.healthCheck.failureThreshold
  successThreshold : 0 < config.spec.healthCheck.successThreshold
  timeoutSeconds : 0 < config.spec.healthCheck.timeoutSeconds
  adoptResources : config.spec.syncPolicy.adoptResources.isKnown

namespace OperatorConfig

theorem kept_rules_iff (jitter : JitterFactor) (registry : FeatureRegistry)
    (config : OperatorConfig) :
    Rule.Kept (config.rules jitter registry) ↔ config.Sound jitter registry := by
  simp only [rules, OperatorSpec.rules, ClusterDelays.rules, LeaderElection.rules,
    HealthCheck.rules, Rule.kept_append, Rule.kept_cons, Rule.kept_setting,
    FeatureGate.kept_listRules, Rule.positiveDuration, Rule.positive, Rule.when_broken,
    and_iff_left Rule.kept_nil, Int64.not_le, Decidable.not_not]
  constructor
  · rintro ⟨⟨⟨⟨⟨scope, available, unavailable⟩, ⟨lease, renew, retry, order, outlasted⟩, lock⟩,
      names, registered, known⟩, period, failure, success, timeout⟩, adopt⟩
    exact ⟨scope, Int.not_le.mp available, Int.not_le.mp unavailable, Int.not_le.mp lease,
      Int.not_le.mp renew, Int.not_le.mp retry, Int.not_le.mp order, outlasted, lock, names,
      registered, known, period, failure, success, timeout, adopt⟩
  · intro sound
    exact ⟨⟨⟨⟨⟨sound.scope, Int.not_le.mpr sound.availableDelay,
      Int.not_le.mpr sound.unavailableDelay⟩, ⟨Int.not_le.mpr sound.leaseDuration,
      Int.not_le.mpr sound.renewDeadline, Int.not_le.mpr sound.retryPeriod,
      Int.not_le.mpr sound.leaseOutlasts, sound.renewOutlasts⟩, sound.resourceLock⟩,
      sound.gateNames, sound.gatesRegistered, sound.gatesKnown⟩, sound.periodSeconds,
      sound.failureThreshold, sound.successThreshold, sound.timeoutSeconds⟩,
      sound.adoptResources⟩

theorem violations_eq_reports (jitter : JitterFactor) (registry : FeatureRegistry)
    (config : OperatorConfig) :
    config.violations jitter registry = Rule.reports (config.rules jitter registry) :=
  config.spec.violations_eq_reports jitter registry (.ofRoot "spec")

theorem violations_eq_nil_iff (jitter : JitterFactor) (registry : FeatureRegistry)
    (config : OperatorConfig) :
    config.violations jitter registry = [] ↔ config.Sound jitter registry := by
  rw [violations_eq_reports, Rule.reports_eq_nil, kept_rules_iff]

/-- The broken rules are reported in the order of the table, each of them once and whatever the
others find. -/
theorem violations_exactly_broken (jitter : JitterFactor) (registry : FeatureRegistry)
    (config : OperatorConfig) :
    config.violations jitter registry =
        ((config.rules jitter registry).filter fun rule => rule.broken).map Rule.report ∧
      (config.violations jitter registry).Nodup ∧
      (∀ rule ∈ config.rules jitter registry,
        rule.report ∈ config.violations jitter registry ↔ rule.broken) ∧
      (config.violations jitter registry = [] ↔ config.Sound jitter registry) := by
  have distinct : Rule.Distinct (config.rules jitter registry) :=
    config.spec.distinct_rules jitter registry (.ofRoot "spec")
  have table := config.violations_eq_reports jitter registry
  refine ⟨table, ?_, ?_, config.violations_eq_nil_iff jitter registry⟩
  · rw [table]
    exact distinct.nodup_reports
  · intro rule member
    rw [table]
    exact distinct.report_mem_reports member

theorem blank_reports_lease_order :
    let path := ((FieldPath.ofRoot "spec").child "leaderElect").child "leaseDuration"
    let rule := Rule.when (Duration.zero ≤ Duration.zero)
      (.invalid path (.duration .zero) leaseRule)
    rule ∈ OperatorConfig.rules .default .default {} ∧
      rule.report ∈ OperatorConfig.violations .default .default {} := by
  intro path rule
  have member : rule ∈ OperatorConfig.rules .default .default {} := by
    simp [rules, OperatorSpec.rules, LeaderElection.rules, rule, path]
  have reported := (violations_exactly_broken .default .default {}).2.2.1 rule member
  exact ⟨member, reported.mpr (Int.le_refl 0)⟩

end OperatorConfig

end FederationConfig
