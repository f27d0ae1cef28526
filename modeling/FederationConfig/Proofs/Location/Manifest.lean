import FederationConfig.Manifest.Basic
import FederationConfig.Proofs.Location.Checks
import FederationConfig.Proofs.TypeConfig.Acceptance

namespace FederationConfig

variable {root : Json} {path : FieldPath}

theorem ResourceType.violations_showIn {resource : ResourceType}
    (located : root.at? path.steps = some (record.write resource)) :
    (resource.violations path).ShowIn root := by
  have field := FieldPath.at?_field located record_names
  have group := groupViolations_showIn (field 0 (by decide))
  have version := labelViolations_showIn (field 1 (by decide)) resource.version
  have kind := labelViolations_showIn (field 2 (by decide))
    (String.ofList (Text.lowercase resource.kind.toList))
  have pluralName := labelViolations_showIn (field 3 (by decide)) resource.pluralName
  have scope : Violations.ShowIn root (Check.setting (path.child "scope") resource.scope) :=
    Check.setting_showIn (field 4 (by decide))
  exact Violations.showIn_append (Violations.showIn_append (Violations.showIn_append
    (Violations.showIn_append group version) kind) pluralName) scope

theorem ResourceType.strictViolations_showIn {resource : ResourceType}
    (located : root.at? path.steps = some (record.write resource)) :
    (resource.strictViolations path).ShowIn root := by
  have field := FieldPath.at?_field located record_names
  have dotted := dottedGroupViolations_showIn (field 0 (by decide))
  exact Violations.showIn_append dotted (violations_showIn located)

theorem optional_showIn {α : Type} (write : α → Json) (check : α → Violations) (part : Option α)
    (located : root.at? path.steps = part.map write)
    (shows : ∀ value, root.at? path.steps = some (write value) → (check value).ShowIn root) :
    Violations.ShowIn root (part.elim [] check) := by
  cases part with
  | none => exact Violations.showIn_nil root
  | some value => exact shows value located

theorem TypeConfigSpec.violations_showIn {spec : TypeConfigSpec}
    (located : root.at? path.steps = some (record.write spec)) :
    (spec.violations path).ShowIn root := by
  have field := FieldPath.at?_field located record_names
  have targetType := ResourceType.violations_showIn (field 0 (by decide))
  have federatedType := ResourceType.strictViolations_showIn (field 1 (by decide))
  have statusType := optional_showIn ResourceType.record.write
    (fun statusType => statusType.strictViolations (path.child "statusType")) spec.statusType
    (field 2 (by decide)) fun _ => ResourceType.strictViolations_showIn
  have propagation : Violations.ShowIn root
      (Check.setting (path.child "propagation") spec.propagation) :=
    Check.setting_showIn (field 3 (by decide))
  have statusCollection := optional_showIn (fun setting => .text setting.text)
    (Check.setting (path.child "statusCollection")) spec.statusCollection
    (field 4 (by decide)) fun _ => Check.setting_showIn
  rw [violations_eq]
  exact Violations.showIn_append (Violations.showIn_append (Violations.showIn_append
    (Violations.showIn_append targetType propagation) federatedType) statusType) statusCollection

theorem TypeConfigStatus.violations_showIn {status : TypeConfigStatus}
    (located : root.at? path.steps = some (record.write status)) :
    (status.violations path).ShowIn root := by
  have field := FieldPath.at?_field located record_names
  have generation : Violations.ShowIn root
      (Check.atLeastZero (path.child "observedGeneration") status.observedGeneration) :=
    Check.atLeastZero_showIn (field 0 (by decide))
  have propagation : Violations.ShowIn root
      (Check.setting (path.child "propagationController") status.propagationController) :=
    Check.setting_showIn (field 1 (by decide))
  have controller := optional_showIn (fun setting => .text setting.text)
    (Check.setting (path.child "statusController")) status.statusController
    (field 2 (by decide)) fun _ => Check.setting_showIn
  rw [violations_eq]
  exact Violations.showIn_append (Violations.showIn_append generation propagation) controller

theorem ClusterDelays.violations_showIn {delays : ClusterDelays}
    (located : root.at? path.steps = some (record.write delays)) :
    (delays.violations path).ShowIn root := by
  have field := FieldPath.at?_field located record_names
  exact Violations.showIn_append (Check.positiveDuration_showIn (field 0 (by decide)))
    (Check.positiveDuration_showIn (field 1 (by decide)))

theorem LeaderElection.violations_showIn (jitter : JitterFactor) {election : LeaderElection}
    (located : root.at? path.steps = some (record.write election)) :
    (election.violations jitter path).ShowIn root := by
  have field := FieldPath.at?_field located record_names
  have lease := Check.positiveDuration_showIn (field 0 (by decide))
  have renew := Check.positiveDuration_showIn (field 1 (by decide))
  have retry := Check.positiveDuration_showIn (field 2 (by decide))
  have leaseOrder := leaseViolations_showIn (field 0 (by decide))
  have renewOrder := renewViolations_showIn jitter (field 1 (by decide))
  have lock : Violations.ShowIn root
      (Check.setting (path.child "resourceLock") election.resourceLock) :=
    Check.setting_showIn (field 3 (by decide))
  exact Violations.showIn_append (Violations.showIn_append (Violations.showIn_append
    (Violations.showIn_append (Violations.showIn_append lease renew) retry) leaseOrder)
    renewOrder) lock

theorem HealthCheck.violations_showIn {check : HealthCheck}
    (located : root.at? path.steps = some (record.write check)) :
    (check.violations path).ShowIn root := by
  have field := FieldPath.at?_field located record_names
  have period := Check.positive_showIn (field 0 (by decide))
  have failure := Check.positive_showIn (field 1 (by decide))
  have success := Check.positive_showIn (field 2 (by decide))
  have timeout := Check.positive_showIn (field 3 (by decide))
  exact Violations.showIn_append (Violations.showIn_append (Violations.showIn_append
    period failure) success) timeout

namespace FeatureGate

theorem violationsAfter_showIn (registry : FeatureRegistry) (earlier : List String)
    {gate : FeatureGate} (located : root.at? path.steps = some (record.write gate)) :
    (gate.violationsAfter registry earlier path).ShowIn root := by
  have field := FieldPath.at?_field located record_names
  have name : root.at? (path.child "name").steps = some (.text gate.name) := field 0 (by decide)
  have configuration : Violations.ShowIn root
      (Check.setting (path.child "configuration") gate.configuration) :=
    Check.setting_showIn (field 1 (by decide))
  rw [violationsAfter]
  split
  · exact Violations.showIn_single (Violation.duplicate_showsIn name)
  · exact Violations.showIn_append (Check.oneOf_showIn name registry.names) configuration

theorem listViolations_showIn_from (registry : FeatureRegistry) (position : Nat)
    (earlier : List String) (gates : List FeatureGate)
    (located : ∀ offset, root.at? (path.item (position + offset)).steps =
      (gates.map record.write)[offset]?) :
    (listViolations registry path position earlier gates).ShowIn root := by
  -- Induction over the gates that are left, which are written from the position on.
  induction gates generalizing position earlier with
  | nil => exact Violations.showIn_nil root
  | cons gate rest ih =>
      have first := violationsAfter_showIn registry earlier (located 0)
      have later := ih (position + 1) (gate.name :: earlier) (by
        intro offset
        have next := located (offset + 1)
        rw [List.map_cons, List.getElem?_cons_succ] at next
        rw [← next, Nat.add_assoc, Nat.add_comm 1])
      exact Violations.showIn_append first later

theorem listViolations_showIn (registry : FeatureRegistry) {gates : List FeatureGate}
    (located : root.at? path.steps = some (.list (gates.map record.write))) :
    (listViolations registry path 0 [] gates).ShowIn root := by
  apply listViolations_showIn_from
  intro offset
  rw [Nat.zero_add, FieldPath.at?_item located]
  rfl

end FeatureGate

theorem OperatorSpec.violations_showIn (jitter : JitterFactor) (registry : FeatureRegistry)
    {spec : OperatorSpec} (located : root.at? path.steps = some (record.write spec)) :
    (spec.violations jitter registry path).ShowIn root := by
  have field := FieldPath.at?_field located record_names
  have scope : Violations.ShowIn root (Check.setting (path.child "scope") spec.scope) :=
    Check.setting_showIn (field 0 (by decide))
  have delays := ClusterDelays.violations_showIn (field 1 (by decide))
  have election := LeaderElection.violations_showIn jitter (field 2 (by decide))
  have gates := FeatureGate.listViolations_showIn registry (field 3 (by decide))
  have health := HealthCheck.violations_showIn (field 4 (by decide))
  have sync := FieldPath.at?_field (field 5 (by decide)) SyncPolicy.record_names
  have adopt : Violations.ShowIn root (Check.setting
      ((path.child "syncController").child "adoptResources") spec.syncPolicy.adoptResources) :=
    Check.setting_showIn (sync 0 (by decide))
  exact Violations.showIn_append (Violations.showIn_append (Violations.showIn_append
    (Violations.showIn_append (Violations.showIn_append scope delays) election) gates) health) adopt

theorem FieldPath.at?_root {α : Type} (record : Record α) (distinct : record.HasDistinctNames)
    (value : α) (position : Nat) (inside : position < record.fields.length) :
    (record.write value).at? (FieldPath.ofRoot record.fields[position].name).steps =
      record.fields[position].write? value := by
  rw [at?_ofRoot, record.child?_write distinct value _ (List.getElem_mem inside)]

theorem TypeConfig.violation_shows (naming : NamingConvention) (pass : Pass) (config : TypeConfig)
    (violation : Violation) (reported : violation ∈ config.violations naming pass) :
    violation = .invalid (.ofRoot "name") (.text config.metadata.name) nameRule ∨
      violation.ShowsIn (record.write config) := by
  have field := FieldPath.at?_root record record_names config
  cases pass with
  | status =>
      exact .inr (TypeConfigStatus.violations_showIn (field 3 (by decide)) violation reported)
  | object =>
      rw [violations, objectViolations_eq] at reported
      split at reported
      · exact .inr (TypeConfigSpec.violations_showIn (field 2 (by decide)) violation reported)
      · exact .inl (List.mem_singleton.mp reported)

theorem OperatorConfig.violation_shows (jitter : JitterFactor) (registry : FeatureRegistry)
    (config : OperatorConfig) (violation : Violation)
    (reported : violation ∈ config.violations jitter registry) :
    violation.ShowsIn (record.write config) := by
  have field := FieldPath.at?_root record record_names config
  exact OperatorSpec.violations_showIn jitter registry (field 2 (by decide)) violation reported

namespace Manifest

/-- The name of a type config that does not follow the naming rule stands for itself. Every other
violation leads through the written object to the value that is reported. -/
theorem violation_points_to_value (policy : Policy) (manifest : Manifest) (violation : Violation)
    (reported : violation ∈ manifest.violations policy) :
    (manifest.kind = .typeConfig ∧
        violation = .invalid (.ofRoot "name") (.text manifest.name) TypeConfig.nameRule) ∨
      ∃ value, manifest.toJson.at? violation.field.steps = some value ∧
        value = if violation.kind = .required then .text "" else violation.badValue.toJson := by
  cases manifest with
  | typeConfig config =>
      rcases config.violation_shows policy.naming policy.pass violation reported with named | shows
      · exact .inl ⟨rfl, named⟩
      · exact .inr ⟨violation.shown, shows, rfl⟩
  | operatorConfig config =>
      have shows := config.violation_shows policy.jitter policy.registry violation reported
      exact .inr ⟨violation.shown, shows, rfl⟩

theorem repeated_gate_points_to_name :
    let gate : FeatureGate := ⟨"PushReconciler", .known .enabled⟩
    let manifest := operatorConfig { spec := { featureGates := [gate, gate] } }
    let violation := Violation.duplicate
      ((((FieldPath.ofRoot "spec").child "featureGates").item 1).child "name")
      (.text "PushReconciler")
    violation ∈ manifest.violations {} ∧
      manifest.toJson.at? violation.field.steps = some (.text "PushReconciler") := by
  intro gate manifest violation
  have reported : violation ∈ manifest.violations {} := by decide +kernel
  refine ⟨reported, ?_⟩
  rcases violation_points_to_value {} manifest violation reported with
    ⟨other, _⟩ | ⟨value, found, same⟩
  · cases other
  · rw [found, same]
    rfl

end Manifest

end FederationConfig
