import FederationConfig.Proofs.Number.Arithmetic
import FederationConfig.Proofs.OperatorConfig.Acceptance

/-!
Timing of elections. A deadline and a stretched period are compared as rounded numbers. Rounding
keeps their order, so that a later deadline, a shorter period or a smaller factor never breaks the
rule, and so that no accepted config has its durations out of order.
-/

namespace FederationConfig

open Binary64 (level ofInt wholePart)

namespace JitterFactor

def toRat (factor : JitterFactor) : ℚ := factor.value.toRat

theorem one_le_default : 1 ≤ JitterFactor.default.toRat := by
  norm_num [toRat, JitterFactor.default, Binary64.toRat, Binary64.signed]

variable {factor : JitterFactor}

theorem stretch_level (factor : JitterFactor) (period : Duration) :
    (factor.stretch period).IsRepresentable ∧
      (factor.stretch period).level =
        wholePart ((ofInt period.nanoseconds).multiply factor.value).level :=
  Binary64.truncate_level (Binary64.multiply_isRepresentable
    (Binary64.ofInt_isRepresentable period.nanoseconds) factor.positive)

theorem isOutlasted_iff (factor : JitterFactor) (deadline period : Duration) :
    factor.isOutlasted deadline period ↔
      (factor.stretch period).level < (ofInt deadline.nanoseconds).level :=
  Binary64.less_iff (factor.stretch_level period).1
    (Binary64.ofInt_isRepresentable deadline.nanoseconds)

theorem stretch_mono {period longer : Duration} (below : period ≤ longer) :
    (factor.stretch period).level ≤ (factor.stretch longer).level := by
  have product := Binary64.level_multiply_mono
    (Binary64.ofInt_isRepresentable period.nanoseconds)
    (Binary64.ofInt_isRepresentable longer.nanoseconds) factor.positive
    (Binary64.level_ofInt_mono below)
  rw [(factor.stretch_level period).2, (factor.stretch_level longer).2]
  exact Binary64.wholePart_mono product

theorem stretch_mono_factor {smaller : JitterFactor} {period : Duration}
    (below : smaller.toRat ≤ factor.toRat) (nonneg : 0 ≤ period.nanoseconds) :
    (smaller.stretch period).level ≤ (factor.stretch period).level := by
  have product := Binary64.level_multiply_mono_factor
    (Binary64.ofInt_isRepresentable period.nanoseconds) smaller.positive factor.positive
    (Binary64.level_ofInt_nonneg nonneg) below
  rw [(smaller.stretch_level period).2, (factor.stretch_level period).2]
  exact Binary64.wholePart_mono product

/-- The rounded period is a whole number, so that truncation does not take the product below it. -/
theorem level_le_stretch {period : Duration} (atLeastOne : 1 ≤ factor.toRat)
    (nonneg : 0 ≤ period.nanoseconds) :
    (ofInt period.nanoseconds).level ≤ (factor.stretch period).level := by
  have product := Binary64.level_le_multiply (Binary64.ofInt_isRepresentable period.nanoseconds)
    factor.positive (Binary64.level_ofInt_nonneg nonneg) atLeastOne
  calc
    (ofInt period.nanoseconds).level = wholePart (ofInt period.nanoseconds).level :=
      (Binary64.wholePart_level_ofInt period.nanoseconds).symm
    _ ≤ wholePart ((ofInt period.nanoseconds).multiply factor.value).level :=
      Binary64.wholePart_mono product
    _ = (factor.stretch period).level := (factor.stretch_level period).2.symm

theorem isOutlasted_mono {deadline later period shorter : Duration} (raised : deadline ≤ later)
    (lowered : shorter ≤ period) (outlasted : factor.isOutlasted deadline period) :
    factor.isOutlasted later shorter := by
  rw [isOutlasted_iff] at outlasted ⊢
  calc
    (factor.stretch shorter).level ≤ (factor.stretch period).level := stretch_mono lowered
    _ < (ofInt deadline.nanoseconds).level := outlasted
    _ ≤ (ofInt later.nanoseconds).level := Binary64.level_ofInt_mono raised

theorem isOutlasted_of_smaller {smaller : JitterFactor} {deadline period : Duration}
    (below : smaller.toRat ≤ factor.toRat) (nonneg : 0 ≤ period.nanoseconds)
    (outlasted : factor.isOutlasted deadline period) : smaller.isOutlasted deadline period := by
  rw [isOutlasted_iff] at outlasted ⊢
  exact lt_of_le_of_lt (stretch_mono_factor below nonneg) outlasted

theorem lt_of_isOutlasted {deadline period : Duration} (atLeastOne : 1 ≤ factor.toRat)
    (nonneg : 0 ≤ period.nanoseconds) (outlasted : factor.isOutlasted deadline period) :
    period < deadline := by
  rw [isOutlasted_iff] at outlasted
  by_contra notAfter
  have early : deadline.nanoseconds ≤ period.nanoseconds := Int.not_lt.mp notAfter
  have contradiction : (factor.stretch period).level < (factor.stretch period).level := by
    calc
      (factor.stretch period).level < (ofInt deadline.nanoseconds).level := outlasted
      _ ≤ (ofInt period.nanoseconds).level := Binary64.level_ofInt_mono early
      _ ≤ (factor.stretch period).level := level_le_stretch atLeastOne nonneg
  exact lt_irrefl _ contradiction

end JitterFactor

namespace Rule

def Says (detail : String) (rules : List Rule) : Prop :=
  ∃ rule ∈ rules, rule.broken ∧ rule.report.detail = detail

variable {detail : String}

theorem says_append (front back : List Rule) :
    Says detail (front ++ back) ↔ Says detail front ∨ Says detail back := by
  simp [Says, or_and_right, exists_or]

theorem says_cons (rule : Rule) (rules : List Rule) :
    Says detail (rule :: rules) ↔
      (rule.broken ∧ rule.report.detail = detail) ∨ Says detail rules := by
  simp [Says]

theorem not_says_nil : ¬ Says detail [] := by
  simp [Says]

end Rule

theorem supportedDetail_ne_renewRule (names : List String) :
    Violation.supportedDetail names ≠ renewRule := by
  have first : renewRule.toList.head? = some 'r' := rfl
  intro same
  rw [← same, Violation.supportedDetail] at first
  split at first
  · cases first
  · rw [String.toList_append] at first
    cases first

theorem not_says_setting {α : Type} [Choice α] (path : FieldPath) (value : Setting α) :
    ¬ Rule.Says renewRule (Rule.setting path value) := by
  have empty : "" ≠ renewRule := by decide
  simp [Rule.setting, Rule.says_cons, Rule.not_says_nil, Violation.required,
    Violation.notSupported, supportedDetail_ne_renewRule, empty]

theorem FeatureGate.not_says_listRules (registry : FeatureRegistry) (path : FieldPath)
    (gates : List FeatureGate) : ¬ Rule.Says renewRule (listRules registry path gates) := by
  have empty : "" ≠ renewRule := by decide
  rintro ⟨rule, member, _, said⟩
  obtain ⟨⟨gate, position⟩, _, inside⟩ := List.mem_flatMap.mp member
  simp only [rules, List.mem_cons, List.not_mem_nil, or_false] at inside
  rcases inside with rfl | rfl | rfl | rfl | rfl
  · exact empty said
  · exact empty said
  · exact supportedDetail_ne_renewRule registry.names said
  · exact empty said
  · exact supportedDetail_ne_renewRule (Choice.names Toggle) said

namespace OperatorConfig

/-- Whether a validation reports that the deadline does not outlast the stretched period. -/
def ReportsRenewRule (jitter : JitterFactor) (registry : FeatureRegistry)
    (config : OperatorConfig) : Prop :=
  ∃ violation ∈ config.violations jitter registry, violation.detail = renewRule

theorem reportsRenewRule_iff (jitter : JitterFactor) (registry : FeatureRegistry)
    (config : OperatorConfig) :
    config.ReportsRenewRule jitter registry ↔
      ¬ jitter.isOutlasted config.spec.leaderElection.renewDeadline
        config.spec.leaderElection.retryPeriod := by
  have sign : Check.greaterThanZero ≠ renewRule := by decide
  have lease : leaseRule ≠ renewRule := by decide
  have said : config.ReportsRenewRule jitter registry ↔
      Rule.Says renewRule (config.rules jitter registry) := by
    rw [ReportsRenewRule, violations_eq_reports]
    constructor
    · rintro ⟨violation, member, said⟩
      obtain ⟨rule, inside, broken, rfl⟩ := (Rule.mem_reports _ _).mp member
      exact ⟨rule, inside, broken, said⟩
    · rintro ⟨rule, inside, broken, said⟩
      exact ⟨rule.report, (Rule.mem_reports _ _).mpr ⟨rule, inside, broken, rfl⟩, said⟩
  rw [said]
  simp [rules, OperatorSpec.rules, ClusterDelays.rules, LeaderElection.rules, HealthCheck.rules,
    Rule.positive, Rule.positiveDuration, Rule.says_append, Rule.says_cons, not_says_setting,
    FeatureGate.not_says_listRules, Violation.invalid, sign, lease]

def retimed (config : OperatorConfig) (deadline period : Duration) : OperatorConfig :=
  { config with spec.leaderElection.renewDeadline := deadline
                spec.leaderElection.retryPeriod := period }

/-- A deadline that outlasts a period goes on to do so if it is raised, if the period is lowered,
and, unless the period is negative, if the factor is lowered. Nothing that is compared is `nan`. -/
theorem renewRule_stays_kept (jitter : JitterFactor) (registry : FeatureRegistry)
    (config : OperatorConfig) :
    (∀ deadline period : Duration, ¬ config.ReportsRenewRule jitter registry →
        config.spec.leaderElection.renewDeadline ≤ deadline →
        period ≤ config.spec.leaderElection.retryPeriod →
        ¬ (config.retimed deadline period).ReportsRenewRule jitter registry) ∧
      (∀ smaller : JitterFactor, ¬ config.ReportsRenewRule jitter registry →
        0 ≤ config.spec.leaderElection.retryPeriod.nanoseconds →
        smaller.toRat ≤ jitter.toRat →
        ¬ config.ReportsRenewRule smaller registry) ∧
      ∀ deadline period : Duration, ofInt deadline.nanoseconds ≠ .nan ∧
        (ofInt period.nanoseconds).multiply jitter.value ≠ .nan ∧ jitter.stretch period ≠ .nan := by
  refine ⟨fun deadline period kept raised lowered => ?_,
    fun smaller kept nonneg below => ?_, fun deadline period => ⟨?_, ?_, ?_⟩⟩
  · rw [reportsRenewRule_iff, not_not] at kept ⊢
    exact JitterFactor.isOutlasted_mono raised lowered kept
  · rw [reportsRenewRule_iff, not_not] at kept ⊢
    exact JitterFactor.isOutlasted_of_smaller below nonneg kept
  · exact (Binary64.ofInt_isRepresentable deadline.nanoseconds).ne_nan
  · exact (Binary64.multiply_isRepresentable
      (Binary64.ofInt_isRepresentable period.nanoseconds) jitter.positive).ne_nan
  · exact (jitter.stretch_level period).1.ne_nan

theorem renewRule_stays_kept_at_extremes :
    let config : OperatorConfig := ({} : OperatorConfig).retimed ⟨3 * 10 ^ 9⟩ ⟨24 * 10 ^ 8⟩
    let one : JitterFactor := ⟨.finite false (2 ^ 52) (-52), rfl⟩
    ¬ config.ReportsRenewRule .default .default ∧
      ¬ (config.retimed ⟨2 ^ 64⟩ ⟨-1⟩).ReportsRenewRule .default .default ∧
      ¬ config.ReportsRenewRule one .default := by
  intro config one
  have outlasted : JitterFactor.default.isOutlasted ⟨3 * 10 ^ 9⟩ ⟨24 * 10 ^ 8⟩ := by
    decide +kernel
  have kept : ¬ config.ReportsRenewRule .default .default := by
    rw [reportsRenewRule_iff, not_not]
    exact outlasted
  have smaller : one.toRat ≤ JitterFactor.default.toRat := by
    norm_num [one, JitterFactor.toRat, JitterFactor.default, Binary64.toRat, Binary64.signed]
  have raised : config.spec.leaderElection.renewDeadline ≤ ⟨2 ^ 64⟩ := by decide
  have lowered : ⟨-1⟩ ≤ config.spec.leaderElection.retryPeriod := by decide
  obtain ⟨later, lower, -⟩ := renewRule_stays_kept .default .default config
  exact ⟨kept, later _ _ kept raised lowered, lower one kept (by decide) smaller⟩

/-- The durations of accepted configs are in order, whatever numbers they are rounded to. -/
theorem accepted_timing_in_order (registry : FeatureRegistry) (config : OperatorConfig) :
    1 ≤ JitterFactor.default.toRat ∧
      ∀ jitter : JitterFactor, 1 ≤ jitter.toRat → config.violations jitter registry = [] →
        0 < config.spec.leaderElection.retryPeriod.nanoseconds ∧
          config.spec.leaderElection.retryPeriod.nanoseconds <
            config.spec.leaderElection.renewDeadline.nanoseconds ∧
          config.spec.leaderElection.renewDeadline.nanoseconds <
            config.spec.leaderElection.leaseDuration.nanoseconds := by
  refine ⟨JitterFactor.one_le_default, fun jitter atLeastOne accepted => ?_⟩
  have sound := (config.violations_eq_nil_iff jitter registry).mp accepted
  have positive : 0 < config.spec.leaderElection.retryPeriod.nanoseconds := sound.retryPeriod
  have outlasts := JitterFactor.lt_of_isOutlasted atLeastOne positive.le sound.renewOutlasts
  exact ⟨positive, outlasts, sound.leaseOutlasts⟩

theorem accepted_timing_of_long_lease :
    let config : OperatorConfig := { spec := {
      scope := .known .cluster
      clusterDelays := ⟨⟨10 ^ 9⟩, ⟨10 ^ 9⟩⟩
      leaderElection := ⟨⟨2 ^ 61 + 1⟩, ⟨2 ^ 61⟩, ⟨2 ^ 60⟩, .known .configMaps⟩
      healthCheck := ⟨1, 1, 1, 1⟩
      syncPolicy := ⟨.known .enabled⟩ } }
    config.violations .default .default = [] ∧
      0 < config.spec.leaderElection.retryPeriod.nanoseconds ∧
      config.spec.leaderElection.retryPeriod.nanoseconds <
        config.spec.leaderElection.renewDeadline.nanoseconds ∧
      config.spec.leaderElection.renewDeadline.nanoseconds <
        config.spec.leaderElection.leaseDuration.nanoseconds := by
  intro config
  have accepted : config.violations .default .default = [] := by decide +kernel
  obtain ⟨atLeastOne, inOrder⟩ := accepted_timing_in_order .default config
  exact ⟨accepted, inOrder .default atLeastOne accepted⟩

end OperatorConfig

end FederationConfig
