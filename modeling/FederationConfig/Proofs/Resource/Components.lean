import FederationConfig.Proofs.Dns.Problems
import FederationConfig.Proofs.Resource.Table

namespace FederationConfig.ResourceType

open Text (split)

inductive Component where
  | group
  | version
  | kind
  | pluralName
  | scope
  deriving DecidableEq, Repr

/-- What is wrong with a label whose `normalized` form is checked. -/
def labelReport (path : FieldPath) (value normalized : String) : Violation :=
  if value = "" then .required path ""
  else .invalid path (.text value) (",".intercalate (Dns.labelProblems normalized))

theorem labelReport_field (path : FieldPath) (value normalized : String) :
    (labelReport path value normalized).field = path := by
  rw [labelReport]
  split <;> rfl

namespace Component

def all : List Component := [group, version, kind, pluralName, scope]

theorem mem_all (component : Component) : component ∈ all := by
  cases component <;> decide

def name : Component → String
  | group => "group"
  | version => "version"
  | kind => "kind"
  | pluralName => "pluralName"
  | scope => "scope"

def Broken (resource : ResourceType) : Component → Prop
  | group => resource.group ≠ "" ∧ ¬ Dns.IsSubdomainName resource.group
  | version => ¬ Dns.IsLabelName resource.version
  | kind => ¬ Dns.IsLabelName resource.lowerKind
  | pluralName => ¬ Dns.IsLabelName resource.pluralName
  | scope => ¬ resource.scope.isKnown

instance (resource : ResourceType) (component : Component) :
    Decidable (component.Broken resource) :=
  match component with
  | group => inferInstanceAs (Decidable (_ ∧ _))
  | version => inferInstanceAs (Decidable (¬ _))
  | kind => inferInstanceAs (Decidable (¬ _))
  | pluralName => inferInstanceAs (Decidable (¬ _))
  | scope => inferInstanceAs (Decidable (¬ _))

def report (resource : ResourceType) (path : FieldPath) : Component → Violation
  | group => .invalid (path.child "group") (.text resource.group)
      (",".intercalate (Dns.subdomainProblems resource.group))
  | version => labelReport (path.child "version") resource.version resource.version
  | kind => labelReport (path.child "kind") resource.kind resource.lowerKind
  | pluralName => labelReport (path.child "pluralName") resource.pluralName resource.pluralName
  | scope =>
    if resource.scope.isMissing then .required (path.child "scope") ""
    else .notSupported (path.child "scope") (.text resource.scope.text) (Choice.names Scope)

theorem name_inj {first second : Component} (same : first.name = second.name) :
    first = second := by
  cases first <;> cases second <;> first | rfl | exact absurd same (by decide)

theorem report_field (resource : ResourceType) (path : FieldPath) (component : Component) :
    (component.report resource path).field = path.child component.name := by
  cases component with
  | group => rfl
  | version => exact labelReport_field ..
  | kind => exact labelReport_field ..
  | pluralName => exact labelReport_field ..
  | scope =>
      rw [report]
      split <;> rfl

end Component

theorem groupViolations_eq_ite (path : FieldPath) (group : String) :
    groupViolations path group =
      if group ≠ "" ∧ ¬ Dns.IsSubdomainName group then
        [.invalid path (.text group) (",".intercalate (Dns.subdomainProblems group))]
      else [] := by
  simp only [groupViolations, problemsAt, ← Dns.subdomainProblems_eq_nil_iff]
  by_cases core : group = ""
  · simp [core]
  · by_cases right : Dns.subdomainProblems group = []
    · simp [core, right]
    · simp [core, right]

theorem labelViolations_eq_ite {value normalized : String} (path : FieldPath)
    (empty : value = "" → normalized = "") :
    labelViolations path value normalized =
      if ¬ Dns.IsLabelName normalized then [labelReport path value normalized] else [] := by
  simp only [labelViolations, problemsAt, labelReport, ← Dns.labelProblems_eq_nil_iff]
  by_cases absent : value = ""
  · simp [absent, empty absent, Dns.labelProblems_empty]
  · by_cases right : Dns.labelProblems normalized = []
    · simp [absent, right]
    · simp [absent, right]

theorem scopeViolations_eq_ite (resource : ResourceType) (path : FieldPath) :
    Check.setting (path.child "scope") resource.scope =
      if ¬ resource.scope.isKnown then [Component.scope.report resource path] else [] := by
  cases scope : resource.scope with
  | missing => simp [Check.setting, Setting.isKnown, Component.report, scope, Setting.isMissing]
  | known choice => simp [Check.setting, Setting.isKnown]
  | unrecognized text =>
      simp [Check.setting, Setting.isKnown, Component.report, scope, Setting.isMissing,
        Setting.text]

theorem lowerKind_empty (resource : ResourceType) (empty : resource.kind = "") :
    resource.lowerKind = "" := by
  rw [lowerKind, empty]
  rfl

theorem violations_eq_components (resource : ResourceType) (path : FieldPath) :
    resource.violations path =
      (Component.all.filter fun component => component.Broken resource).map fun component =>
        component.report resource path := by
  have one (component : Component) (others : List Component) :
      ((component :: others).filter fun component => component.Broken resource).map
          (fun component => component.report resource path) =
        (if component.Broken resource then [component.report resource path] else []) ++
          (others.filter fun component => component.Broken resource).map
            fun component => component.report resource path := by
    by_cases broken : component.Broken resource <;> simp [broken]
  have kind := labelViolations_eq_ite (path.child "kind") resource.lowerKind_empty
  rw [lowerKind] at kind
  rw [Component.all, one, one, one, one, one, violations, groupViolations_eq_ite,
    labelViolations_eq_ite _ id, kind, labelViolations_eq_ite _ id, scopeViolations_eq_ite]
  simp only [List.append_assoc, List.filter_nil, List.map_nil, List.append_nil]
  rfl

theorem unreported_iff (resource : ResourceType) (path : FieldPath) (component : Component) :
    (∀ violation ∈ resource.violations path, violation.field ≠ path.child component.name) ↔
      ¬ component.Broken resource := by
  rw [violations_eq_components]
  constructor
  · intro silent broken
    refine silent _ (List.mem_map.mpr ⟨component, ?_, rfl⟩) (component.report_field resource path)
    exact List.mem_filter.mpr ⟨component.mem_all, decide_eq_true broken⟩
  · intro kept violation member same
    obtain ⟨other, found, rfl⟩ := List.mem_map.mp member
    rw [other.report_field] at same
    have names : other.name = component.name := by simpa [FieldPath.child] using same
    rw [Component.name_inj names] at found
    exact kept (of_decide_eq_true (List.mem_filter.mp found).2)

theorem dotted_iff (group : String) : 2 ≤ Dns.labelCount group ↔ '.' ∈ group.toList := by
  rw [Dns.labelCount_eq, ← List.count_pos_iff]
  omega

theorem dottedGroupViolations_eq (path : FieldPath) (group : String) :
    dottedGroupViolations path group =
      if group = "" then [.required path ""]
      else if '.' ∈ group.toList then []
      else [.invalid path (.text group) atLeastOneDot] := by
  simp only [dottedGroupViolations, ← dotted_iff, ← Nat.not_le, ite_not]

theorem strictViolations_eq_nil_iff_labels (resource : ResourceType) (path : FieldPath) :
    resource.strictViolations path = [] ↔
      resource.violations path = [] ∧ resource.group.utf8ByteSize ≤ 253 ∧
        2 ≤ (split '.' resource.group.toList).length ∧
        ∀ label ∈ split '.' resource.group.toList, Dns.IsHostLabel label := by
  have count : Dns.labelCount resource.group = (split '.' resource.group.toList).length := rfl
  rw [strictViolations_eq_nil_iff, violations_eq_nil_iff, ← count]
  constructor
  · intro strict
    have core : resource.group ≠ "" := by
      intro core
      have dotted := strict.dotted
      rw [core, Dns.labelCount_empty] at dotted
      omega
    have right := (Dns.subdomainProblems_eq_nil_iff _).mp (strict.group.resolve_left core)
    exact ⟨strict.toValid, right.1, strict.dotted, right.2⟩
  · rintro ⟨valid, -, dotted, -⟩
    exact ⟨valid, dotted⟩

theorem nodup_fields (resource : ResourceType) (path : FieldPath) :
    ((resource.violations path).map Violation.field).Nodup := by
  have names : Component.all.Nodup := by decide
  rw [violations_eq_components, List.map_map]
  refine (names.filter _).map_on ?_
  intro first _ second _ same
  simp only [Function.comp_apply, Component.report_field] at same
  exact Component.name_inj (by simpa [FieldPath.child] using same)

/-- A resource type has one violation for each component that breaks its own rule, and the strict
rule puts what it has to say about the group in front. It is kept by groups of several labels
only. -/
theorem violations_by_component (resource : ResourceType) (path : FieldPath) :
    resource.violations path =
        (Component.all.filter fun component => component.Broken resource).map (fun component =>
          component.report resource path) ∧
      (∀ component : Component,
        (component.report resource path).field = path.child component.name) ∧
      ((resource.violations path).map Violation.field).Nodup ∧
      resource.strictViolations path =
        (if resource.group = "" then [.required (path.child "group") ""]
          else if '.' ∈ resource.group.toList then []
          else [.invalid (path.child "group") (.text resource.group) atLeastOneDot]) ++
          resource.violations path ∧
      (resource.strictViolations path = [] ↔
        resource.violations path = [] ∧ resource.group.utf8ByteSize ≤ 253 ∧
          2 ≤ (split '.' resource.group.toList).length ∧
          ∀ label ∈ split '.' resource.group.toList, Dns.IsHostLabel label) ∧
      (resource.strictViolations path = [] → resource.group ≠ "" ∧
        '.' ∈ resource.group.toList ∧ [] ∉ split '.' resource.group.toList) := by
  refine ⟨violations_eq_components resource path, Component.report_field resource path,
    nodup_fields resource path, ?_, strictViolations_eq_nil_iff_labels resource path, ?_⟩
  · rw [strictViolations, dottedGroupViolations_eq]
  · intro accepted
    obtain ⟨-, -, several, host⟩ := (strictViolations_eq_nil_iff_labels resource path).mp accepted
    have dotted : '.' ∈ resource.group.toList := (dotted_iff resource.group).mp several
    refine ⟨?_, dotted, fun empty => (host [] empty).given rfl⟩
    intro core
    rw [core] at dotted
    cases dotted

theorem violations_of_trailing_dot :
    let federated : ResourceType :=
      ⟨"types.kubefed.io", "v1", "FederatedPod", "federatedpods", .known .namespaced⟩
    let path : FieldPath := ⟨"spec", [.field "federatedType"]⟩
    federated.strictViolations path = [] ∧ '.' ∈ federated.group.toList ∧
      { federated with group := "a." }.strictViolations path ≠ [] := by
  intro federated path
  have accepted : federated.strictViolations path = [] := by decide +kernel
  obtain ⟨-, -, -, -, -, grouped⟩ := violations_by_component federated path
  refine ⟨accepted, (grouped accepted).2.1, ?_⟩
  intro junk
  obtain ⟨-, -, -, -, -, ungrouped⟩ :=
    violations_by_component { federated with group := "a." } path
  exact (ungrouped junk).2.2 (by decide)

end FederationConfig.ResourceType
