import FederationConfig.Manifest.Basic
import FederationConfig.Proofs.Field.Legibility
import FederationConfig.Proofs.Field.Repetition
import FederationConfig.Proofs.OperatorConfig.Table
import FederationConfig.Proofs.TypeConfig.Acceptance

namespace FederationConfig

open Violations (Sparing sparing_nil sparing_one sparing_two sparing_when sparing_branches)

variable (twice : List FieldPath) (path : FieldPath)

theorem ClusterDelays.sparing_violations (delays : ClusterDelays) :
    Sparing twice path (delays.violations path) := by
  apply sparing_branches path
    [(.field "availableDelay",
        Check.positiveDuration (path.child "availableDelay") delays.availableDelay),
      (.field "unavailableDelay",
        Check.positiveDuration (path.child "unavailableDelay") delays.unavailableDelay)]
  · simp [violations]
  · simp
  · exact ⟨Check.sparing_positiveDuration _ _ _, Check.sparing_positiveDuration _ _ _⟩

namespace LeaderElection

theorem sparing_leaseDuration (election : LeaderElection) (known : path ∈ twice) :
    Sparing twice path (Check.positiveDuration path election.leaseDuration ++
      election.leaseViolations path) := by
  have differ : Check.greaterThanZero ≠ leaseRule := by decide
  unfold Check.positiveDuration leaseViolations
  split
  · split
    · exact sparing_two rfl rfl differ known
    · exact sparing_one rfl
  · exact sparing_when _ rfl

theorem sparing_renewDeadline (jitter : JitterFactor) (election : LeaderElection)
    (known : path ∈ twice) :
    Sparing twice path (Check.positiveDuration path election.renewDeadline ++
      election.renewViolations jitter path) := by
  have differ : Check.greaterThanZero ≠ renewRule := by decide
  unfold Check.positiveDuration renewViolations
  split
  · split
    · exact sparing_one rfl
    · exact sparing_two rfl rfl differ known
  · split
    · exact sparing_nil twice path
    · exact sparing_one rfl

theorem sparing_violations (jitter : JitterFactor) (election : LeaderElection)
    (lease : path.child "leaseDuration" ∈ twice) (renew : path.child "renewDeadline" ∈ twice) :
    Sparing twice path (election.violations jitter path) := by
  have grouped : Sparing twice path
      (Check.positiveDuration (path.child "leaseDuration") election.leaseDuration ++
        election.leaseViolations (path.child "leaseDuration") ++
        (Check.positiveDuration (path.child "renewDeadline") election.renewDeadline ++
          election.renewViolations jitter (path.child "renewDeadline")) ++
        Check.positiveDuration (path.child "retryPeriod") election.retryPeriod ++
        Check.setting (path.child "resourceLock") election.resourceLock) := by
    apply sparing_branches path
      [(.field "leaseDuration",
          Check.positiveDuration (path.child "leaseDuration") election.leaseDuration ++
            election.leaseViolations (path.child "leaseDuration")),
        (.field "renewDeadline",
          Check.positiveDuration (path.child "renewDeadline") election.renewDeadline ++
            election.renewViolations jitter (path.child "renewDeadline")),
        (.field "retryPeriod",
          Check.positiveDuration (path.child "retryPeriod") election.retryPeriod),
        (.field "resourceLock",
          Check.setting (path.child "resourceLock") election.resourceLock)]
    · simp
    · simp
    · exact ⟨election.sparing_leaseDuration twice _ lease,
        election.sparing_renewDeadline twice _ jitter renew,
        Check.sparing_positiveDuration _ _ _, Check.sparing_setting _ _ _⟩
  apply grouped.perm
  rw [List.perm_iff_count]
  intro violation
  simp only [violations, List.count_append]
  omega

end LeaderElection

namespace FeatureGate

theorem sparing_violationsAt (registry : FeatureRegistry) (gates : List FeatureGate)
    (gate : FeatureGate) (position : Nat) :
    Sparing twice path (gate.violationsAt registry gates position path) := by
  unfold violationsAt
  split
  · exact (sparing_one rfl : Sparing twice (path.child "name") _).widen
  · apply sparing_branches path
      [(.field "name", Check.oneOf (path.child "name") gate.name registry.names),
        (.field "configuration",
          Check.setting (path.child "configuration") gate.configuration)]
    · simp [Check.oneOf]
    · simp
    · exact ⟨Check.sparing_oneOf _ _ _ _, Check.sparing_setting _ _ _⟩

theorem sparing_listViolations (registry : FeatureRegistry) (gates : List FeatureGate) :
    Sparing twice path (listViolations registry path 0 [] gates) := by
  apply sparing_branches path (gates.zipIdx.map fun entry =>
    (.index entry.2, entry.1.violationsAt registry gates entry.2 (path.item entry.2)))
  · rw [List.flatMap_map]
    exact listViolations_eq registry path gates
  · have positions : (gates.zipIdx.map Prod.snd).Nodup := by
      rw [List.zipIdx_map_snd]
      exact List.nodup_range'
    have segments := positions.map fun _ _ => PathSegment.index.inj
    rwa [List.map_map] at segments ⊢
  · rw [List.forall_iff_forall_mem]
    intro branch member
    obtain ⟨⟨gate, position⟩, _, rfl⟩ := List.mem_map.mp member
    exact sparing_violationsAt twice (path.item position) registry gates gate position

end FeatureGate

theorem HealthCheck.sparing_violations (check : HealthCheck) :
    Sparing twice path (check.violations path) := by
  apply sparing_branches path
    [(.field "periodSeconds", Check.positive (path.child "periodSeconds") check.periodSeconds),
      (.field "failureThreshold",
        Check.positive (path.child "failureThreshold") check.failureThreshold),
      (.field "successThreshold",
        Check.positive (path.child "successThreshold") check.successThreshold),
      (.field "timeoutSeconds", Check.positive (path.child "timeoutSeconds") check.timeoutSeconds)]
  · simp [violations]
  · simp
  · exact ⟨Check.sparing_positive _ _ _, Check.sparing_positive _ _ _,
      Check.sparing_positive _ _ _, Check.sparing_positive _ _ _⟩

theorem OperatorSpec.sparing_violations (jitter : JitterFactor) (registry : FeatureRegistry)
    (spec : OperatorSpec)
    (lease : (path.child "leaderElect").child "leaseDuration" ∈ twice)
    (renew : (path.child "leaderElect").child "renewDeadline" ∈ twice) :
    Sparing twice path (spec.violations jitter registry path) := by
  apply sparing_branches path
    [(.field "scope", Check.setting (path.child "scope") spec.scope),
      (.field "controllerDuration",
        spec.clusterDelays.violations (path.child "controllerDuration")),
      (.field "leaderElect", spec.leaderElection.violations jitter (path.child "leaderElect")),
      (.field "featureGates",
        FeatureGate.listViolations registry (path.child "featureGates") 0 [] spec.featureGates),
      (.field "clusterHealthCheck", spec.healthCheck.violations (path.child "clusterHealthCheck")),
      (.field "syncController", Check.setting
        ((path.child "syncController").child "adoptResources") spec.syncPolicy.adoptResources)]
  · simp [violations]
  · simp
  · exact ⟨Check.sparing_setting _ _ _, spec.clusterDelays.sparing_violations _ _,
      spec.leaderElection.sparing_violations _ _ jitter lease renew,
      FeatureGate.sparing_listViolations _ _ _ _, spec.healthCheck.sparing_violations _ _,
      (Check.sparing_setting _ _ _).widen⟩

namespace ResourceType

theorem sparing_problemsAt (value : String) (problems : List String) :
    Sparing twice path (problemsAt path value problems) := by
  unfold problemsAt
  split
  · exact sparing_nil twice path
  · exact sparing_one rfl

theorem sparing_groupViolations (group : String) :
    Sparing twice path (groupViolations path group) := by
  unfold groupViolations
  split
  · exact sparing_nil twice path
  · exact sparing_problemsAt twice path _ _

theorem sparing_labelViolations (value normalized : String) :
    Sparing twice path (labelViolations path value normalized) := by
  unfold labelViolations
  split
  · exact sparing_one rfl
  · exact sparing_problemsAt twice path _ _

theorem sparing_dottedGroup (group : String) (known : path ∈ twice) :
    Sparing twice path (dottedGroupViolations path group ++ groupViolations path group) := by
  have differ : atLeastOneDot ≠ ",".intercalate (Dns.subdomainProblems group) := by
    intro same
    have begins : Text.Begins 's' atLeastOneDot := .ofList _ _
    rw [same] at begins
    exact Dns.not_begins_subdomainDetail group begins
  unfold dottedGroupViolations groupViolations problemsAt
  split
  · exact sparing_one rfl
  · split
    · split
      · exact sparing_one rfl
      · exact sparing_two rfl rfl differ known
    · split
      · exact sparing_nil twice path
      · exact sparing_one rfl

theorem sparing_behindGroup (resource : ResourceType) {front : Violations}
    (group : Sparing twice (path.child "group") front) :
    Sparing twice path (front ++
      labelViolations (path.child "version") resource.version resource.version ++
      labelViolations (path.child "kind") resource.kind resource.lowerKind ++
      labelViolations (path.child "pluralName") resource.pluralName resource.pluralName ++
      Check.setting (path.child "scope") resource.scope) := by
  apply sparing_branches path
    [(.field "group", front),
      (.field "version",
        labelViolations (path.child "version") resource.version resource.version),
      (.field "kind", labelViolations (path.child "kind") resource.kind resource.lowerKind),
      (.field "pluralName",
        labelViolations (path.child "pluralName") resource.pluralName resource.pluralName),
      (.field "scope", Check.setting (path.child "scope") resource.scope)]
  · simp
  · simp
  · exact ⟨group, sparing_labelViolations _ _ _ _, sparing_labelViolations _ _ _ _,
      sparing_labelViolations _ _ _ _, Check.sparing_setting _ _ _⟩

theorem sparing_violations (resource : ResourceType) :
    Sparing twice path (resource.violations path) :=
  resource.sparing_behindGroup twice path (sparing_groupViolations twice _ resource.group)

theorem sparing_strictViolations (resource : ResourceType) (known : path.child "group" ∈ twice) :
    Sparing twice path (resource.strictViolations path) := by
  have both := resource.sparing_behindGroup twice path
    (sparing_dottedGroup twice (path.child "group") resource.group known)
  simpa only [strictViolations, violations, lowerKind, List.append_assoc] using both

end ResourceType

theorem Violations.Sparing.optional {α : Type} {check : α → Violations}
    (sparing : ∀ value, Sparing twice path (check value)) (part : Option α) :
    Sparing twice path (part.elim [] check) := by
  cases part with
  | none => exact sparing_nil twice path
  | some value => exact sparing value

theorem TypeConfigSpec.sparing_violations (spec : TypeConfigSpec)
    (federated : (path.child "federatedType").child "group" ∈ twice)
    (status : (path.child "statusType").child "group" ∈ twice) :
    Sparing twice path (spec.violations path) := by
  apply sparing_branches path
    [(.field "targetType", spec.targetType.violations (path.child "targetType")),
      (.field "propagation", Check.setting (path.child "propagation") spec.propagation),
      (.field "federatedType", spec.federatedType.strictViolations (path.child "federatedType")),
      (.field "statusType", spec.statusType.elim [] fun statusType =>
        statusType.strictViolations (path.child "statusType")),
      (.field "statusCollection",
        spec.statusCollection.elim [] (Check.setting (path.child "statusCollection")))]
  · simp [violations_eq]
  · simp
  · exact ⟨spec.targetType.sparing_violations _ _, Check.sparing_setting _ _ _,
      spec.federatedType.sparing_strictViolations _ _ federated,
      .optional _ _ (fun statusType => statusType.sparing_strictViolations _ _ status) _,
      .optional _ _ (fun setting => Check.sparing_setting _ _ setting) _⟩

theorem TypeConfigStatus.sparing_violations (status : TypeConfigStatus) :
    Sparing twice path (status.violations path) := by
  apply sparing_branches path
    [(.field "observedGeneration",
        Check.atLeastZero (path.child "observedGeneration") status.observedGeneration),
      (.field "propagationController",
        Check.setting (path.child "propagationController") status.propagationController),
      (.field "statusController",
        status.statusController.elim [] (Check.setting (path.child "statusController")))]
  · simp [violations_eq]
  · simp
  · exact ⟨Check.sparing_atLeastZero _ _ _, Check.sparing_setting _ _ _,
      .optional _ _ (fun setting => Check.sparing_setting _ _ setting) _⟩

namespace Manifest

/-- The fields that two checks are about. -/
def twiceChecked : List FieldPath :=
  [⟨"spec", [.field "leaderElect", .field "leaseDuration"]⟩,
    ⟨"spec", [.field "leaderElect", .field "renewDeadline"]⟩,
    ⟨"spec", [.field "federatedType", .field "group"]⟩,
    ⟨"spec", [.field "statusType", .field "group"]⟩]

theorem exists_sparing (policy : Policy) (manifest : Manifest) :
    ∃ path, Sparing twiceChecked path (manifest.violations policy) := by
  cases manifest with
  | operatorConfig config =>
      exact ⟨_, config.spec.sparing_violations twiceChecked _ policy.jitter policy.registry
        (by decide) (by decide)⟩
  | typeConfig config =>
      show ∃ path, Sparing twiceChecked path (config.violations policy.naming policy.pass)
      cases policy.pass with
      | status => exact ⟨_, config.status.sparing_violations twiceChecked _⟩
      | object =>
          rw [TypeConfig.violations, TypeConfig.objectViolations_eq]
          split
          · exact ⟨_, config.spec.sparing_violations twiceChecked _ (by decide) (by decide)⟩
          · exact ⟨_, sparing_one rfl⟩

/-- No violation is reported twice. A field has one violation at most, or two with different details
if it is one of the four that are checked twice. -/
theorem violations_unrepeated (policy : Policy) (manifest : Manifest) :
    (manifest.violations policy).Nodup ∧
      ∀ path : FieldPath,
        ((manifest.violations policy).filter fun violation => violation.field = path).length ≤
            (if path ∈ twiceChecked then 2 else 1) ∧
          (((manifest.violations policy).filter fun violation => violation.field = path).map
            Violation.detail).Nodup := by
  obtain ⟨path, sparing⟩ := manifest.exists_sparing policy
  exact ⟨sparing.nodup, fun place => ⟨sparing.few place, sparing.unlike place⟩⟩

example :
    let config : TypeConfig := { spec := { federatedType := { group := "Types" } } }
    (((Manifest.typeConfig config).violations {}).filter fun violation =>
      violation.field = ⟨"spec", [.field "federatedType", .field "group"]⟩).length = 2 := by
  decide +kernel

end Manifest

end FederationConfig
