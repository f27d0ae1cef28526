import FederationConfig.Resource.Rules
import FederationConfig.Proofs.Rule

namespace FederationConfig

namespace Dns

theorem labelProblems_empty : labelProblems "" ≠ [] := by
  simp [labelProblems, isLabel]

theorem labelCount_empty : labelCount "" = 1 := rfl

end Dns

namespace ResourceType

def labelRules (path : FieldPath) (value normalized : String) : List Rule :=
  [.when (value = "") (.required path ""),
    .when (value ≠ "" ∧ Dns.labelProblems normalized ≠ [])
      (.invalid path (.text value) (",".intercalate (Dns.labelProblems normalized)))]

def groupRule (path : FieldPath) (group : String) : Rule :=
  .when (group ≠ "" ∧ Dns.subdomainProblems group ≠ [])
    (.invalid path (.text group) (",".intercalate (Dns.subdomainProblems group)))

def dottedGroupRules (path : FieldPath) (group : String) : List Rule :=
  [.when (group = "") (.required path ""),
    .when (group ≠ "" ∧ Dns.labelCount group < 2) (.invalid path (.text group) atLeastOneDot)]

def lowerKind (resource : ResourceType) : String :=
  String.ofList (Text.lowercase resource.kind.toList)

def rules (resource : ResourceType) (path : FieldPath) : List Rule :=
  groupRule (path.child "group") resource.group ::
    (labelRules (path.child "version") resource.version resource.version ++
      labelRules (path.child "kind") resource.kind resource.lowerKind ++
      labelRules (path.child "pluralName") resource.pluralName resource.pluralName ++
      Rule.setting (path.child "scope") resource.scope)

def strictRules (resource : ResourceType) (path : FieldPath) : List Rule :=
  dottedGroupRules (path.child "group") resource.group ++ resource.rules path

theorem groupViolations_eq_reports (path : FieldPath) (group : String) :
    groupViolations path group = Rule.reports [groupRule path group] := by
  by_cases core : group = ""
  · simp [groupViolations, groupRule, Rule.reports_cons, core]
  · by_cases right : Dns.subdomainProblems group = []
    · simp [groupViolations, groupRule, problemsAt, Rule.reports_cons, core, right]
    · simp [groupViolations, groupRule, problemsAt, Rule.reports_cons, core, right]

theorem labelViolations_eq_reports (path : FieldPath) (value normalized : String) :
    labelViolations path value normalized = Rule.reports (labelRules path value normalized) := by
  by_cases empty : value = ""
  · simp [labelViolations, labelRules, Rule.reports_cons, empty]
  · by_cases right : Dns.labelProblems normalized = []
    · simp [labelViolations, labelRules, problemsAt, Rule.reports_cons, empty, right]
    · simp [labelViolations, labelRules, problemsAt, Rule.reports_cons, empty, right]

theorem dottedGroupViolations_eq_reports (path : FieldPath) (group : String) :
    dottedGroupViolations path group = Rule.reports (dottedGroupRules path group) := by
  by_cases core : group = ""
  · simp [dottedGroupViolations, dottedGroupRules, Rule.reports_cons, core]
  · by_cases single : Dns.labelCount group < 2
    · simp [dottedGroupViolations, dottedGroupRules, Rule.reports_cons, core, single]
    · simp [dottedGroupViolations, dottedGroupRules, Rule.reports_cons, core, single]

theorem violations_eq_reports (resource : ResourceType) (path : FieldPath) :
    resource.violations path = Rule.reports (resource.rules path) := by
  simp only [violations, rules, groupViolations_eq_reports, labelViolations_eq_reports,
    Check.setting_eq_reports, ← Rule.reports_append]
  rfl

theorem strictViolations_eq_reports (resource : ResourceType) (path : FieldPath) :
    resource.strictViolations path = Rule.reports (resource.strictRules path) := by
  rw [strictViolations, strictRules, dottedGroupViolations_eq_reports, violations_eq_reports,
    Rule.reports_append]

/-- Only a target may be of the core group, whose name is empty. -/
structure Valid (resource : ResourceType) : Prop where
  group : resource.group = "" ∨ Dns.subdomainProblems resource.group = []
  version : Dns.labelProblems resource.version = []
  kind : resource.kind ≠ "" ∧ Dns.labelProblems resource.lowerKind = []
  pluralName : Dns.labelProblems resource.pluralName = []
  scope : resource.scope.isKnown

structure StrictlyValid (resource : ResourceType) : Prop extends resource.Valid where
  dotted : 2 ≤ Dns.labelCount resource.group

theorem kept_labelRules (path : FieldPath) (value normalized : String) :
    Rule.Kept (labelRules path value normalized) ↔
      value ≠ "" ∧ Dns.labelProblems normalized = [] := by
  simp only [labelRules, Rule.kept_cons, Rule.when_broken, and_iff_left Rule.kept_nil]
  constructor
  · rintro ⟨given, right⟩
    exact ⟨given, Decidable.not_not.mp fun wrong => right ⟨given, wrong⟩⟩
  · rintro ⟨given, right⟩
    exact ⟨given, fun broken => broken.2 right⟩

theorem kept_plainLabelRules (path : FieldPath) (value : String) :
    Rule.Kept (labelRules path value value) ↔ Dns.labelProblems value = [] := by
  rw [kept_labelRules]
  constructor
  · exact And.right
  · intro right
    exact ⟨fun empty => Dns.labelProblems_empty (empty ▸ right), right⟩

theorem kept_rules (resource : ResourceType) (path : FieldPath) :
    Rule.Kept (resource.rules path) ↔ resource.Valid := by
  have group : ¬ (groupRule (path.child "group") resource.group).broken ↔
      resource.group = "" ∨ Dns.subdomainProblems resource.group = [] := by
    simp only [groupRule, Rule.when_broken, ne_eq, not_and, Decidable.not_not]
    exact Decidable.or_iff_not_imp_left.symm
  rw [rules, Rule.kept_cons, group, Rule.kept_append, Rule.kept_append, Rule.kept_append,
    kept_plainLabelRules, kept_labelRules, kept_plainLabelRules, Rule.kept_setting]
  constructor
  · rintro ⟨group, ⟨⟨version, kind⟩, pluralName⟩, scope⟩
    exact ⟨group, version, kind, pluralName, scope⟩
  · intro valid
    exact ⟨valid.group, ⟨⟨valid.version, valid.kind⟩, valid.pluralName⟩, valid.scope⟩

theorem kept_strictRules (resource : ResourceType) (path : FieldPath) :
    Rule.Kept (resource.strictRules path) ↔ resource.StrictlyValid := by
  have dotted : Rule.Kept (dottedGroupRules (path.child "group") resource.group) ↔
      2 ≤ Dns.labelCount resource.group := by
    simp only [dottedGroupRules, Rule.kept_cons, Rule.when_broken, and_iff_left Rule.kept_nil]
    constructor
    · rintro ⟨given, dotted⟩
      exact Nat.le_of_not_lt fun single => dotted ⟨given, single⟩
    · intro dotted
      refine ⟨?_, fun broken => Nat.not_lt.mpr dotted broken.2⟩
      intro core
      rw [core, Dns.labelCount_empty] at dotted
      omega
  rw [strictRules, Rule.kept_append, dotted, kept_rules]
  constructor
  · rintro ⟨dotted, valid⟩
    exact ⟨valid, dotted⟩
  · intro strict
    exact ⟨strict.dotted, strict.toValid⟩

theorem violations_eq_nil_iff (resource : ResourceType) (path : FieldPath) :
    resource.violations path = [] ↔ resource.Valid := by
  rw [violations_eq_reports, Rule.reports_eq_nil, kept_rules]

theorem strictViolations_eq_nil_iff (resource : ResourceType) (path : FieldPath) :
    resource.strictViolations path = [] ↔ resource.StrictlyValid := by
  rw [strictViolations_eq_reports, Rule.reports_eq_nil, kept_strictRules]

end ResourceType

end FederationConfig
