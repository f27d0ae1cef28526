import FederationConfig.Manifest.Basic
import FederationConfig.Proofs.Field.Legibility
import FederationConfig.Proofs.OperatorConfig.Table
import FederationConfig.Proofs.TypeConfig.Acceptance

namespace FederationConfig

variable {registry : FeatureRegistry} {path : FieldPath}

/-- The path is made of words, and leads to a field of the type. -/
structure FieldPath.LeadsTo (registry : FeatureRegistry) (type : FieldType) (path : FieldPath) :
    Prop where
  plain : path.IsPlain
  typed : path.type registry = type

theorem FieldPath.IsPlain.leadsTo_child (plain : path.IsPlain) (name : String)
    (word : IsWord name) : (path.child name).LeadsTo registry (.ofName registry name) :=
  ⟨plain.child name word, path.type_child registry name⟩

theorem Violation.invalid_isLegible {type : FieldType} (leads : path.LeadsTo registry type)
    {value : FieldValue} {detail : String} (given : detail ≠ "")
    (known : detail ∈ type.details value) : (invalid path value detail).IsLegible registry := by
  apply IsLegible.invalid leads.plain given
  rw [leads.typed]
  exact known

namespace Violations

theorem isLegible_nil : IsLegible registry [] := fun _ member => nomatch member

theorem isLegible_append {front back : Violations} (first : front.IsLegible registry)
    (second : back.IsLegible registry) : IsLegible registry (front ++ back) :=
  List.forall_mem_append.mpr ⟨first, second⟩

theorem isLegible_optional {α : Type} (check : α → Violations) (part : Option α)
    (legible : ∀ value, (check value).IsLegible registry) :
    IsLegible registry (part.elim [] check) := by
  cases part with
  | none => exact isLegible_nil
  | some value => exact legible value

end Violations

namespace Rule

def Legible (registry : FeatureRegistry) (rules : List Rule) : Prop :=
  ∀ rule ∈ rules, rule.broken → rule.report.IsLegible registry

theorem Legible.isLegible_reports {rules : List Rule} (legible : Legible registry rules) :
    (reports rules).IsLegible registry := by
  intro violation reported
  obtain ⟨rule, member, broken, rfl⟩ := (mem_reports rules violation).mp reported
  exact legible rule member broken

theorem legible_nil : Legible registry [] := fun _ member => nomatch member

theorem legible_cons {rule : Rule} {rules : List Rule}
    (first : rule.broken → rule.report.IsLegible registry) (later : Legible registry rules) :
    Legible registry (rule :: rules) :=
  List.forall_mem_cons.mpr ⟨first, later⟩

theorem legible_append {front back : List Rule} (first : Legible registry front)
    (second : Legible registry back) : Legible registry (front ++ back) :=
  List.forall_mem_append.mpr ⟨first, second⟩

theorem legible_setting {α : Type} [Choice α]
    (leads : path.LeadsTo registry (.choice (Choice.names α))) (value : Setting α) :
    Legible registry (setting path value) :=
  legible_cons (fun _ => .required leads.plain)
    (legible_cons (fun _ => .notSupported leads.plain leads.typed) legible_nil)

end Rule

open Violation (invalid_isLegible)
open Violations (isLegible_append isLegible_optional)
open Rule (Legible legible_nil legible_cons legible_append legible_setting)

theorem ClusterDelays.legible_rules (plain : path.IsPlain) (delays : ClusterDelays) :
    Legible registry (delays.rules path) := by
  have available : (path.child "availableDelay").LeadsTo registry .delay :=
    plain.leadsTo_child "availableDelay" (by decide)
  have unavailable : (path.child "unavailableDelay").LeadsTo registry .delay :=
    plain.leadsTo_child "unavailableDelay" (by decide)
  exact legible_cons (fun _ => invalid_isLegible available (by decide) (.head _))
    (legible_cons (fun _ => invalid_isLegible unavailable (by decide) (.head _)) legible_nil)

theorem LeaderElection.legible_rules (jitter : JitterFactor) (plain : path.IsPlain)
    (election : LeaderElection) : Legible registry (election.rules jitter path) := by
  have lease : (path.child "leaseDuration").LeadsTo registry .lease :=
    plain.leadsTo_child "leaseDuration" (by decide)
  have deadline : (path.child "renewDeadline").LeadsTo registry .deadline :=
    plain.leadsTo_child "renewDeadline" (by decide)
  have retry : (path.child "retryPeriod").LeadsTo registry .delay :=
    plain.leadsTo_child "retryPeriod" (by decide)
  have lock : (path.child "resourceLock").LeadsTo registry (.choice (Choice.names ResourceLock)) :=
    plain.leadsTo_child "resourceLock" (by decide)
  refine legible_append ?_ (legible_setting lock election.resourceLock)
  exact legible_cons (fun _ => invalid_isLegible lease (by decide) (.head _))
    (legible_cons (fun _ => invalid_isLegible deadline (by decide) (.head _))
    (legible_cons (fun _ => invalid_isLegible retry (by decide) (.head _))
    (legible_cons (fun _ => invalid_isLegible lease (by decide) (.tail _ (.head _)))
    (legible_cons (fun _ => invalid_isLegible deadline (by decide) (.tail _ (.head _)))
      legible_nil))))

namespace FeatureGate

theorem legible_rules (plain : path.IsPlain) (gates : List FeatureGate) (gate : FeatureGate)
    (position : Nat) : Legible registry (gate.rules registry gates position path) := by
  have name : (path.child "name").LeadsTo registry (.choice registry.names) :=
    plain.leadsTo_child "name" (by decide)
  have configuration :
      (path.child "configuration").LeadsTo registry (.choice (Choice.names Toggle)) :=
    plain.leadsTo_child "configuration" (by decide)
  exact legible_cons (fun _ => .duplicate name.plain)
    (legible_cons (fun _ => .required name.plain)
    (legible_cons (fun _ => .notSupported name.plain name.typed)
    (legible_cons (fun _ => .required configuration.plain)
    (legible_cons (fun _ => .notSupported configuration.plain configuration.typed) legible_nil))))

theorem legible_listRules (plain : path.IsPlain) (gates : List FeatureGate) :
    Legible registry (listRules registry path gates) := by
  intro rule member
  obtain ⟨⟨gate, position⟩, -, inside⟩ := List.mem_flatMap.mp member
  exact legible_rules (plain.item position) gates gate position rule inside

end FeatureGate

theorem HealthCheck.legible_rules (plain : path.IsPlain) (check : HealthCheck) :
    Legible registry (check.rules path) := by
  have period : (path.child "periodSeconds").LeadsTo registry .count :=
    plain.leadsTo_child "periodSeconds" (by decide)
  have failure : (path.child "failureThreshold").LeadsTo registry .count :=
    plain.leadsTo_child "failureThreshold" (by decide)
  have success : (path.child "successThreshold").LeadsTo registry .count :=
    plain.leadsTo_child "successThreshold" (by decide)
  have timeout : (path.child "timeoutSeconds").LeadsTo registry .count :=
    plain.leadsTo_child "timeoutSeconds" (by decide)
  exact legible_cons (fun _ => invalid_isLegible period (by decide) (.head _))
    (legible_cons (fun _ => invalid_isLegible failure (by decide) (.head _))
    (legible_cons (fun _ => invalid_isLegible success (by decide) (.head _))
    (legible_cons (fun _ => invalid_isLegible timeout (by decide) (.head _)) legible_nil)))

theorem OperatorSpec.legible_rules (jitter : JitterFactor) (plain : path.IsPlain)
    (spec : OperatorSpec) : Legible registry (spec.rules jitter registry path) := by
  have scope : (path.child "scope").LeadsTo registry (.choice (Choice.names Scope)) :=
    plain.leadsTo_child "scope" (by decide)
  have delays := plain.child "controllerDuration" (by decide)
  have election := plain.child "leaderElect" (by decide)
  have gates := plain.child "featureGates" (by decide)
  have health := plain.child "clusterHealthCheck" (by decide)
  have sync := plain.child "syncController" (by decide)
  have adopt : ((path.child "syncController").child "adoptResources").LeadsTo registry
      (.choice (Choice.names Toggle)) := sync.leadsTo_child "adoptResources" (by decide)
  exact legible_append (legible_append (legible_append (legible_append (legible_append
    (legible_setting scope spec.scope)
    (spec.clusterDelays.legible_rules delays))
    (spec.leaderElection.legible_rules jitter election))
    (FeatureGate.legible_listRules gates spec.featureGates))
    (spec.healthCheck.legible_rules health))
    (legible_setting adopt spec.syncPolicy.adoptResources)

theorem OperatorConfig.isLegible_violations (jitter : JitterFactor) (registry : FeatureRegistry)
    (config : OperatorConfig) : (config.violations jitter registry).IsLegible registry := by
  rw [violations, OperatorSpec.violations_eq_reports]
  exact (config.spec.legible_rules jitter (.ofRoot (by decide))).isLegible_reports

namespace ResourceType

theorem labelDetail_ne_empty {label : String} (wrong : Dns.labelProblems label ≠ []) :
    ",".intercalate (Dns.labelProblems label) ≠ "" := by
  rcases Dns.begins_labelDetail wrong with begins | begins <;> exact begins.ne_empty

theorem subdomainDetail_ne_empty {name : String} (wrong : Dns.subdomainProblems name ≠ []) :
    ",".intercalate (Dns.subdomainProblems name) ≠ "" := by
  rcases Dns.begins_subdomainDetail wrong with begins | begins <;> exact begins.ne_empty

theorem legible_groupRule (leads : path.LeadsTo registry .group) (group : String) :
    Legible registry [groupRule path group] :=
  legible_cons (fun broken => invalid_isLegible leads (subdomainDetail_ne_empty broken.2)
    (.tail _ (.head _))) legible_nil

theorem legible_dottedGroupRules (leads : path.LeadsTo registry .group) (group : String) :
    Legible registry (dottedGroupRules path group) :=
  legible_cons (fun _ => .required leads.plain)
    (legible_cons (fun _ => invalid_isLegible leads (by decide) (.head _)) legible_nil)

theorem legible_labelRules {normalize : String → String}
    (leads : path.LeadsTo registry (.label normalize)) (value : String) :
    Legible registry (labelRules path value (normalize value)) :=
  legible_cons (fun _ => .required leads.plain)
    (legible_cons (fun broken => invalid_isLegible leads (labelDetail_ne_empty broken.2) (.head _))
      legible_nil)

theorem legible_rules (plain : path.IsPlain) (resource : ResourceType) :
    Legible registry (resource.rules path) := by
  have group : (path.child "group").LeadsTo registry .group :=
    plain.leadsTo_child "group" (by decide)
  have version : (path.child "version").LeadsTo registry (.label id) :=
    plain.leadsTo_child "version" (by decide)
  have kind : (path.child "kind").LeadsTo registry (.label FieldType.lowercase) :=
    plain.leadsTo_child "kind" (by decide)
  have pluralName : (path.child "pluralName").LeadsTo registry (.label id) :=
    plain.leadsTo_child "pluralName" (by decide)
  have scope : (path.child "scope").LeadsTo registry (.choice (Choice.names Scope)) :=
    plain.leadsTo_child "scope" (by decide)
  exact legible_append (legible_groupRule group resource.group)
    (legible_append (legible_append (legible_append
      (legible_labelRules version resource.version)
      (legible_labelRules kind resource.kind))
      (legible_labelRules pluralName resource.pluralName))
      (legible_setting scope resource.scope))

theorem legible_strictRules (plain : path.IsPlain) (resource : ResourceType) :
    Legible registry (resource.strictRules path) :=
  legible_append
    (legible_dottedGroupRules (plain.leadsTo_child "group" (by decide)) resource.group)
    (resource.legible_rules plain)

theorem isLegible_violations (plain : path.IsPlain) (resource : ResourceType) :
    (resource.violations path).IsLegible registry := by
  rw [violations_eq_reports]
  exact (resource.legible_rules plain).isLegible_reports

theorem isLegible_strictViolations (plain : path.IsPlain) (resource : ResourceType) :
    (resource.strictViolations path).IsLegible registry := by
  rw [strictViolations_eq_reports]
  exact (resource.legible_strictRules plain).isLegible_reports

end ResourceType

theorem Check.isLegible_setting {α : Type} [Choice α]
    (leads : path.LeadsTo registry (.choice (Choice.names α))) (value : Setting α) :
    (setting path value).IsLegible registry := by
  rw [setting_eq_reports]
  exact (legible_setting leads value).isLegible_reports

theorem TypeConfigSpec.isLegible_violations (plain : path.IsPlain) (spec : TypeConfigSpec) :
    (spec.violations path).IsLegible registry := by
  have targetType := plain.child "targetType" (by decide)
  have propagation : (path.child "propagation").LeadsTo registry (.choice (Choice.names Toggle)) :=
    plain.leadsTo_child "propagation" (by decide)
  have federatedType := plain.child "federatedType" (by decide)
  have statusType := plain.child "statusType" (by decide)
  have statusCollection :
      (path.child "statusCollection").LeadsTo registry (.choice (Choice.names Toggle)) :=
    plain.leadsTo_child "statusCollection" (by decide)
  rw [violations_eq]
  exact isLegible_append (isLegible_append (isLegible_append (isLegible_append
    (spec.targetType.isLegible_violations targetType)
    (Check.isLegible_setting propagation spec.propagation))
    (spec.federatedType.isLegible_strictViolations federatedType))
    (isLegible_optional _ spec.statusType
      fun resource => resource.isLegible_strictViolations statusType))
    (isLegible_optional _ spec.statusCollection (Check.isLegible_setting statusCollection))

theorem TypeConfigStatus.isLegible_violations (plain : path.IsPlain) (status : TypeConfigStatus) :
    (status.violations path).IsLegible registry := by
  have generation : (path.child "observedGeneration").LeadsTo registry .generation :=
    plain.leadsTo_child "observedGeneration" (by decide)
  have propagation :
      (path.child "propagationController").LeadsTo registry (.choice (Choice.names RunState)) :=
    plain.leadsTo_child "propagationController" (by decide)
  have controller :
      (path.child "statusController").LeadsTo registry (.choice (Choice.names RunState)) :=
    plain.leadsTo_child "statusController" (by decide)
  have rule : Legible registry
      [.atLeastZero (path.child "observedGeneration") status.observedGeneration] :=
    legible_cons (fun _ => invalid_isLegible generation (by decide) (.head _)) legible_nil
  rw [violations_eq, Check.atLeastZero_eq_reports]
  exact isLegible_append (isLegible_append rule.isLegible_reports
    (Check.isLegible_setting propagation status.propagationController))
    (isLegible_optional _ status.statusController (Check.isLegible_setting controller))

theorem TypeConfig.isLegible_violations (naming : NamingConvention) (pass : Pass)
    (config : TypeConfig) : (config.violations naming pass).IsLegible registry := by
  cases pass with
  | status => exact config.status.isLegible_violations (.ofRoot (by decide))
  | object =>
      rw [violations, objectViolations_eq]
      split
      · exact config.spec.isLegible_violations (.ofRoot (by decide))
      · have name : (FieldPath.ofRoot "name").LeadsTo registry .objectName :=
          ⟨.ofRoot (by decide), rfl⟩
        exact List.forall_mem_singleton.mpr (invalid_isLegible name (by decide) (.head _))

namespace Manifest

theorem isLegible_violations (policy : Policy) (manifest : Manifest) :
    (manifest.violations policy).IsLegible policy.registry := by
  cases manifest with
  | typeConfig config => exact config.isLegible_violations policy.naming policy.pass
  | operatorConfig config => exact config.isLegible_violations policy.jitter policy.registry

/-- Under one policy, validations that read the same have found the same violations: as many of
them, of the same kinds at the same paths, with the same values, details and choices, in the same
order. -/
theorem render_violations_eq_iff (policy : Policy) (first second : Manifest) :
    (first.violations policy).render = (second.violations policy).render ↔
      first.violations policy = second.violations policy := by
  constructor
  · intro same
    exact Violations.render_inj_of_legible (first.isLegible_violations policy)
      (second.isLegible_violations policy) same
  · intro same
    rw [same]

end Manifest

end FederationConfig
