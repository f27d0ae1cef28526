import FederationConfig.TypeConfig.Rules
import FederationConfig.Proofs.Resource.Table

namespace FederationConfig

namespace Check

theorem setting_eq_nil_iff {α : Type} [Choice α] (path : FieldPath) (value : Setting α) :
    setting path value = [] ↔ value.isKnown := by
  rw [setting_eq_reports, Rule.reports_eq_nil, Rule.kept_setting]

theorem atLeastZero_eq_nil_iff (path : FieldPath) (value : Int64) :
    atLeastZero path value = [] ↔ 0 ≤ value := by
  rw [atLeastZero_eq_reports, Rule.reports_eq_nil, Rule.kept_cons, and_iff_left Rule.kept_nil]
  exact Int64.not_lt

end Check

theorem optional_eq_nil_iff {α : Type} (check : α → Violations) (part : Option α) :
    part.elim [] check = [] ↔ ∀ value ∈ part, check value = [] := by
  cases part with
  | none => simp
  | some value => simp

structure TypeConfigSpec.Valid (spec : TypeConfigSpec) : Prop where
  targetType : spec.targetType.Valid
  propagation : spec.propagation.isKnown
  federatedType : spec.federatedType.StrictlyValid
  statusType : ∀ statusType ∈ spec.statusType, statusType.StrictlyValid
  statusCollection : ∀ setting ∈ spec.statusCollection, setting.isKnown

structure TypeConfigStatus.Valid (status : TypeConfigStatus) : Prop where
  observedGeneration : 0 ≤ status.observedGeneration
  propagationController : status.propagationController.isKnown
  statusController : ∀ setting ∈ status.statusController, setting.isKnown

theorem TypeConfigSpec.violations_eq (spec : TypeConfigSpec) (path : FieldPath) :
    spec.violations path =
      spec.targetType.violations (path.child "targetType") ++
        Check.setting (path.child "propagation") spec.propagation ++
        spec.federatedType.strictViolations (path.child "federatedType") ++
        spec.statusType.elim [] (fun statusType =>
          statusType.strictViolations (path.child "statusType")) ++
        spec.statusCollection.elim [] (Check.setting (path.child "statusCollection")) := by
  rw [violations]
  cases spec.statusType <;> cases spec.statusCollection <;> rfl

theorem TypeConfigSpec.violations_eq_nil_iff (spec : TypeConfigSpec) (path : FieldPath) :
    spec.violations path = [] ↔ spec.Valid := by
  simp only [violations_eq, List.append_eq_nil_iff, ResourceType.violations_eq_nil_iff,
    ResourceType.strictViolations_eq_nil_iff, Check.setting_eq_nil_iff, optional_eq_nil_iff]
  constructor
  · rintro ⟨⟨⟨⟨targetType, propagation⟩, federatedType⟩, statusType⟩, statusCollection⟩
    exact ⟨targetType, propagation, federatedType, statusType, statusCollection⟩
  · intro valid
    exact ⟨⟨⟨⟨valid.targetType, valid.propagation⟩, valid.federatedType⟩, valid.statusType⟩,
      valid.statusCollection⟩

theorem TypeConfigStatus.violations_eq (status : TypeConfigStatus) (path : FieldPath) :
    status.violations path =
      Check.atLeastZero (path.child "observedGeneration") status.observedGeneration ++
        Check.setting (path.child "propagationController") status.propagationController ++
        status.statusController.elim [] (Check.setting (path.child "statusController")) := by
  rw [violations]
  cases status.statusController <;> rfl

theorem TypeConfigStatus.violations_eq_nil_iff (status : TypeConfigStatus) (path : FieldPath) :
    status.violations path = [] ↔ status.Valid := by
  simp only [violations_eq, List.append_eq_nil_iff, Check.atLeastZero_eq_nil_iff,
    Check.setting_eq_nil_iff, optional_eq_nil_iff]
  constructor
  · rintro ⟨⟨observedGeneration, propagationController⟩, statusController⟩
    exact ⟨observedGeneration, propagationController, statusController⟩
  · intro valid
    exact ⟨⟨valid.observedGeneration, valid.propagationController⟩, valid.statusController⟩

namespace TypeConfig

theorem objectViolations_eq (naming : NamingConvention) (config : TypeConfig) :
    config.objectViolations naming =
      if naming config.spec.targetType = config.metadata.name then
        config.spec.violations (.ofRoot "spec")
      else [.invalid (.ofRoot "name") (.text config.metadata.name) nameRule] := by
  by_cases named : naming config.spec.targetType = config.metadata.name
  · simp [objectViolations, nameViolations, named]
  · simp [objectViolations, nameViolations, named]

theorem objectViolations_eq_nil_iff (naming : NamingConvention) (config : TypeConfig) :
    config.objectViolations naming = [] ↔
      naming config.spec.targetType = config.metadata.name ∧ config.spec.Valid := by
  rw [objectViolations_eq]
  by_cases named : naming config.spec.targetType = config.metadata.name
  · rw [if_pos named, TypeConfigSpec.violations_eq_nil_iff]
    exact (and_iff_right named).symm
  · rw [if_neg named]
    exact ⟨fun silent => absurd silent (List.cons_ne_nil _ _), fun right => absurd right.1 named⟩

/-- The pass over the object reports a wrong name alone, or else the parts of the spec in their
order, and depends on the name and the spec only. The pass over the status depends on nothing
but the status. -/
theorem violations_of_passes (naming : NamingConvention) (config : TypeConfig) :
    config.violations naming .object =
        (if naming config.spec.targetType ≠ config.metadata.name then
          [.invalid (.ofRoot "name") (.text config.metadata.name) nameRule]
        else
          config.spec.targetType.violations ⟨"spec", [.field "targetType"]⟩ ++
            Check.setting ⟨"spec", [.field "propagation"]⟩ config.spec.propagation ++
            config.spec.federatedType.strictViolations ⟨"spec", [.field "federatedType"]⟩ ++
            config.spec.statusType.elim [] (fun statusType =>
              statusType.strictViolations ⟨"spec", [.field "statusType"]⟩) ++
            config.spec.statusCollection.elim []
              (Check.setting ⟨"spec", [.field "statusCollection"]⟩)) ∧
      (config.violations naming .object = [] ↔
        naming config.spec.targetType = config.metadata.name ∧ config.spec.Valid) ∧
      (∀ apiVersion enclosing status,
        { config with
          apiVersion, metadata := { config.metadata with enclosing }, status }.violations
            naming .object = config.violations naming .object) ∧
      (∀ otherNaming apiVersion metadata spec,
        { config with apiVersion, metadata, spec }.violations otherNaming .status =
          config.violations naming .status) ∧
      (config.violations naming .status = [] ↔ config.status.Valid) := by
  refine ⟨?_, config.objectViolations_eq_nil_iff naming, ?_, ?_,
    config.status.violations_eq_nil_iff (.ofRoot "status")⟩
  · rw [violations, objectViolations_eq, ite_not, TypeConfigSpec.violations_eq]
    rfl
  · intro apiVersion enclosing status
    simp only [violations, objectViolations_eq]
  · intro otherNaming apiVersion metadata spec
    rfl

end TypeConfig

end FederationConfig
