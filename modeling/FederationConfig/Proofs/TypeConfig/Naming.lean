import FederationConfig.Proofs.Dns.Problems
import FederationConfig.Proofs.Text.Delimiter
import FederationConfig.Proofs.TypeConfig.Acceptance

namespace FederationConfig

namespace Dns

theorem dot_not_mem_of_labelProblems {name : String} (right : labelProblems name = []) :
    '.' ∉ name.toList :=
  ((labelProblems_eq_nil_iff name).mp right).2.undotted

end Dns

namespace NamingConvention

theorem toList_groupQualified_of_core {target : ResourceType} (core : target.group = "") :
    (groupQualified target).toList = target.pluralName.toList := by
  rw [groupQualified, if_pos core]

theorem toList_groupQualified_of_group {target : ResourceType} (given : target.group ≠ "") :
    (groupQualified target).toList =
      target.pluralName.toList ++ '.' :: target.group.toList := by
  rw [groupQualified, if_neg given, String.toList_append, String.toList_append,
    List.append_assoc]
  rfl

theorem dot_mem_groupQualified_iff {target : ResourceType}
    (undotted : '.' ∉ target.pluralName.toList) :
    '.' ∈ (groupQualified target).toList ↔ target.group ≠ "" := by
  by_cases core : target.group = ""
  · rw [toList_groupQualified_of_core core]
    exact iff_of_false undotted (not_not_intro core)
  · rw [toList_groupQualified_of_group core]
    exact iff_of_true (List.mem_append_right _ List.mem_cons_self) core

theorem groupQualified_inj_of_undotted {first second : ResourceType}
    (undotted : '.' ∉ first.pluralName.toList) (undottedToo : '.' ∉ second.pluralName.toList)
    (same : groupQualified first = groupQualified second) :
    first.pluralName = second.pluralName ∧ first.group = second.group := by
  have groups : first.group ≠ "" ↔ second.group ≠ "" := by
    rw [← dot_mem_groupQualified_iff undotted, ← dot_mem_groupQualified_iff undottedToo, same]
  have texts := congrArg String.toList same
  by_cases core : first.group = ""
  · have coreToo : second.group = "" := Decidable.not_not.mp fun given => groups.mpr given core
    rw [toList_groupQualified_of_core core, toList_groupQualified_of_core coreToo] at texts
    exact ⟨String.toList_inj.mp texts, core.trans coreToo.symm⟩
  · rw [toList_groupQualified_of_group core, toList_groupQualified_of_group (groups.mp core)]
      at texts
    obtain ⟨plurals, rests⟩ := Text.append_delimiter_inj undotted undottedToo texts
    exact ⟨String.toList_inj.mp plurals, String.toList_inj.mp rests⟩

theorem exists_labelsOf_groupQualified {target : ResourceType} (valid : target.Valid) :
    ∃ labels, Dns.LabelsOf labels (groupQualified target).toList := by
  have plural := ((Dns.labelProblems_eq_nil_iff _).mp valid.pluralName).2.isHostLabel
  rcases Decidable.em (target.group = "") with core | given
  · rw [toList_groupQualified_of_core core]
    exact ⟨_, Dns.labelsOf_singleton plural⟩
  · have group := valid.group.resolve_left given
    have made := Dns.labelsOf_split ((Dns.subdomainProblems_eq_nil_iff _).mp group).2
    rw [toList_groupQualified_of_group given]
    exact ⟨_, made.cons plural⟩

theorem utf8ByteSize_groupQualified_le {target : ResourceType} (valid : target.Valid) :
    (groupQualified target).utf8ByteSize ≤ 63 + 1 + 253 := by
  have plural : target.pluralName.utf8ByteSize ≤ 63 :=
    ((Dns.labelProblems_eq_nil_iff _).mp valid.pluralName).1
  have dot : ".".utf8ByteSize = 1 := rfl
  rw [groupQualified]
  split
  · omega
  case isFalse given =>
    have group : target.group.utf8ByteSize ≤ 253 :=
      ((Dns.subdomainProblems_eq_nil_iff _).mp (valid.group.resolve_left given)).1
    rw [String.utf8ByteSize_append, String.utf8ByteSize_append]
    omega

end NamingConvention

namespace TypeConfig

/-- The name of an accepted config is that of its target, whose plural name has no dot. -/
theorem name_of_accepted {config : TypeConfig}
    (accepted : config.violations .groupQualified .object = []) :
    NamingConvention.groupQualified config.spec.targetType = config.metadata.name ∧
      '.' ∉ config.spec.targetType.pluralName.toList := by
  obtain ⟨named, valid⟩ := (config.objectViolations_eq_nil_iff .groupQualified).mp accepted
  exact ⟨named, Dns.dot_not_mem_of_labelProblems valid.targetType.pluralName⟩

/-- Two accepted configs have one name if and only if their targets have one plural name and one
group. It is the checks that make it so: targets that are not checked can share a name without
that. -/
theorem accepted_names_unambiguous :
    (∀ first second : TypeConfig, first.violations .groupQualified .object = [] →
      second.violations .groupQualified .object = [] →
      (first.metadata.name = second.metadata.name ↔
        first.spec.targetType.pluralName = second.spec.targetType.pluralName ∧
          first.spec.targetType.group = second.spec.targetType.group)) ∧
      ∃ first second : ResourceType,
        NamingConvention.groupQualified first = NamingConvention.groupQualified second ∧
          first.pluralName ≠ second.pluralName ∧ first.group ≠ second.group := by
  constructor
  · intro first second accepted acceptedToo
    obtain ⟨named, undotted⟩ := name_of_accepted accepted
    obtain ⟨namedToo, undottedToo⟩ := name_of_accepted acceptedToo
    rw [← named, ← namedToo]
    constructor
    · exact NamingConvention.groupQualified_inj_of_undotted undotted undottedToo
    · rintro ⟨plurals, groups⟩
      rw [NamingConvention.groupQualified, NamingConvention.groupQualified, plurals, groups]
  · exact ⟨{ pluralName := "a.b", group := "c" }, { pluralName := "a", group := "b.c" },
      by decide +kernel⟩

theorem accepted_names_of_pods :
    let federated : ResourceType :=
      ⟨"types.kubefed.io", "v1", "FederatedPod", "federatedpods", .known .namespaced⟩
    let config (name : String) (target : ResourceType) : TypeConfig :=
      { metadata := { name := name }
        spec := {
          targetType := target
          federatedType := federated
          propagation := .known .enabled } }
    let core := config "pods" ⟨"", "v1", "Pod", "pods", .known .namespaced⟩
    let metrics := config "pods.metrics.k8s.io"
      ⟨"metrics.k8s.io", "v1beta1", "PodMetrics", "pods", .known .namespaced⟩
    core.violations .groupQualified .object = [] ∧
      metrics.violations .groupQualified .object = [] ∧
      core.spec.targetType.pluralName = metrics.spec.targetType.pluralName ∧
      core.metadata.name ≠ metrics.metadata.name := by
  intro federated config core metrics
  have accepted : core.violations .groupQualified .object = [] := by decide +kernel
  have acceptedToo : metrics.violations .groupQualified .object = [] := by decide +kernel
  refine ⟨accepted, acceptedToo, rfl, ?_⟩
  intro same
  have groups : "" = "metrics.k8s.io" :=
    ((accepted_names_unambiguous.1 core metrics accepted acceptedToo).mp same).2
  exact absurd groups (by decide)

/-- The name of an accepted config matches the pattern of subdomains. At most it is too long, and
then by no more than the label and the dot in front of its group. -/
theorem accepted_names_are_subdomains {config : TypeConfig}
    (accepted : config.violations .groupQualified .object = []) :
    let name := config.metadata.name
    Dns.subdomainFormat.render = Dns.subdomainPattern ∧
      name.toList ∈ Dns.subdomainFormat.language ∧
      (name.utf8ByteSize ≤ 253 → Dns.subdomainProblems name = []) ∧
      (253 < name.utf8ByteSize → Dns.subdomainProblems name = [Dns.tooLong 253]) ∧
      name.utf8ByteSize ≤ 63 + 1 + 253 := by
  intro name
  obtain ⟨named, valid⟩ := (config.objectViolations_eq_nil_iff .groupQualified).mp accepted
  obtain ⟨labels, made⟩ := NamingConvention.exists_labelsOf_groupQualified valid.targetType
  have short := NamingConvention.utf8ByteSize_groupQualified_le valid.targetType
  rw [named] at made short
  have problems := Dns.subdomainProblems_of_labelsOf made
  refine ⟨Dns.render_subdomainFormat, (Dns.mem_subdomainFormat _).mpr ⟨labels, made⟩, ?_, ?_, short⟩
  · intro within
    rw [problems, if_pos within]
  · intro beyond
    rw [problems, if_neg (Nat.not_le.mpr beyond)]

theorem accepted_name_of_greatest_length :
    let text (length : Nat) : String := String.ofList (List.replicate length 'a')
    let name := text 63 ++ "." ++ text 253
    let config : TypeConfig := {
      metadata := { name := name }
      spec := {
        targetType := ⟨text 253, "v1", "Pod", text 63, .known .namespaced⟩
        federatedType := ⟨"types.kubefed.io", "v1", "FederatedPod", "federatedpods",
          .known .namespaced⟩
        propagation := .known .enabled } }
    config.violations .groupQualified .object = [] ∧ name.utf8ByteSize = 63 + 1 + 253 ∧
      Dns.subdomainProblems name = [Dns.tooLong 253] := by
  intro text name config
  have host : Dns.IsHostLabel (text 253).toList := by
    rw [String.toList_ofList]
    decide +kernel
  have group : Dns.subdomainProblems (text 253) = [] := by
    rw [Dns.subdomainProblems_of_labelsOf (Dns.labelsOf_singleton host)]
    decide +kernel
  have federated := (config.spec.federatedType.strictViolations_eq_nil_iff (.ofRoot "spec")).mp
    (by decide +kernel)
  have accepted : config.violations .groupQualified .object = [] :=
    (config.objectViolations_eq_nil_iff .groupQualified).mpr ⟨by decide +kernel, {
      targetType := ⟨.inr group, by decide +kernel, by decide +kernel, by decide +kernel, rfl⟩
      propagation := rfl
      federatedType := federated
      statusType := fun _ absent => nomatch absent
      statusCollection := fun _ absent => nomatch absent }⟩
  have length : name.utf8ByteSize = 63 + 1 + 253 := by decide +kernel
  have problems := (accepted_names_are_subdomains accepted).2.2.2.1
  refine ⟨accepted, length, problems ?_⟩
  show 253 < name.utf8ByteSize
  omega

end TypeConfig

end FederationConfig
