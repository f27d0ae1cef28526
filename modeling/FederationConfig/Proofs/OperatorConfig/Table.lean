import FederationConfig.OperatorConfig.Rules
import FederationConfig.Proofs.Rule

namespace FederationConfig

def ClusterDelays.rules (delays : ClusterDelays) (path : FieldPath) : List Rule :=
  [.positiveDuration (path.child "availableDelay") delays.availableDelay,
    .positiveDuration (path.child "unavailableDelay") delays.unavailableDelay]

def LeaderElection.rules (jitter : JitterFactor) (election : LeaderElection) (path : FieldPath) :
    List Rule :=
  [.positiveDuration (path.child "leaseDuration") election.leaseDuration,
    .positiveDuration (path.child "renewDeadline") election.renewDeadline,
    .positiveDuration (path.child "retryPeriod") election.retryPeriod,
    .when (election.leaseDuration ≤ election.renewDeadline)
      (.invalid (path.child "leaseDuration") (.duration election.leaseDuration) leaseRule),
    .when (¬ jitter.isOutlasted election.renewDeadline election.retryPeriod)
      (.invalid (path.child "renewDeadline") (.duration election.renewDeadline) renewRule)] ++
    Rule.setting (path.child "resourceLock") election.resourceLock

namespace FeatureGate

def IsRepeated (gates : List FeatureGate) (position : Nat) (gate : FeatureGate) : Prop :=
  gate.name ∈ (gates.take position).map name

instance (gates : List FeatureGate) (position : Nat) (gate : FeatureGate) :
    Decidable (IsRepeated gates position gate) :=
  inferInstanceAs (Decidable (_ ∈ _))

/-- What is reported of the gate at a position: that it repeats a name and nothing else, or else
what is wrong with its name and then with its configuration. -/
def violationsAt (registry : FeatureRegistry) (gates : List FeatureGate) (gate : FeatureGate)
    (position : Nat) (path : FieldPath) : Violations :=
  if IsRepeated gates position gate then [.duplicate (path.child "name") (.text gate.name)]
  else
    (if gate.name = "" then [.required (path.child "name") ""]
      else if gate.name ∈ registry.names then []
      else [.notSupported (path.child "name") (.text gate.name) registry.names]) ++
    Check.setting (path.child "configuration") gate.configuration

/-- The rules of the gate at a position; those past the first hold of a repeated gate. -/
def rules (registry : FeatureRegistry) (gates : List FeatureGate) (gate : FeatureGate)
    (position : Nat) (path : FieldPath) : List Rule :=
  [.when (IsRepeated gates position gate) (.duplicate (path.child "name") (.text gate.name)),
    .when (¬ IsRepeated gates position gate ∧ gate.name = "") (.required (path.child "name") ""),
    .when (¬ IsRepeated gates position gate ∧ gate.name ≠ "" ∧ gate.name ∉ registry.names)
      (.notSupported (path.child "name") (.text gate.name) registry.names),
    .when (¬ IsRepeated gates position gate ∧ gate.configuration.isMissing)
      (.required (path.child "configuration") ""),
    .when (¬ IsRepeated gates position gate ∧ gate.configuration.isUnrecognized)
      (.notSupported (path.child "configuration") (.text gate.configuration.text)
        (Choice.names Toggle))]

def listRules (registry : FeatureRegistry) (path : FieldPath) (gates : List FeatureGate) :
    List Rule :=
  gates.zipIdx.flatMap fun (gate, position) =>
    gate.rules registry gates position (path.item position)

end FeatureGate

def HealthCheck.rules (check : HealthCheck) (path : FieldPath) : List Rule :=
  [.positive (path.child "periodSeconds") check.periodSeconds,
    .positive (path.child "failureThreshold") check.failureThreshold,
    .positive (path.child "successThreshold") check.successThreshold,
    .positive (path.child "timeoutSeconds") check.timeoutSeconds]

def OperatorSpec.rules (jitter : JitterFactor) (registry : FeatureRegistry) (spec : OperatorSpec)
    (path : FieldPath) : List Rule :=
  Rule.setting (path.child "scope") spec.scope ++
    spec.clusterDelays.rules (path.child "controllerDuration") ++
    spec.leaderElection.rules jitter (path.child "leaderElect") ++
    FeatureGate.listRules registry (path.child "featureGates") spec.featureGates ++
    spec.healthCheck.rules (path.child "clusterHealthCheck") ++
    Rule.setting ((path.child "syncController").child "adoptResources")
      spec.syncPolicy.adoptResources

def OperatorConfig.rules (jitter : JitterFactor) (registry : FeatureRegistry)
    (config : OperatorConfig) : List Rule :=
  config.spec.rules jitter registry (.ofRoot "spec")

theorem ClusterDelays.violations_eq_reports (delays : ClusterDelays) (path : FieldPath) :
    delays.violations path = Rule.reports (delays.rules path) := by
  simp only [violations, rules, Check.positiveDuration_eq_reports, ← Rule.reports_append]
  rfl

theorem LeaderElection.violations_eq_reports (jitter : JitterFactor) (election : LeaderElection)
    (path : FieldPath) :
    election.violations jitter path = Rule.reports (election.rules jitter path) := by
  have lease : election.leaseViolations (path.child "leaseDuration") =
      Rule.reports [.when (election.leaseDuration ≤ election.renewDeadline)
        (.invalid (path.child "leaseDuration") (.duration election.leaseDuration) leaseRule)] := by
    rw [Rule.reports_cons, Rule.reports_nil, List.append_nil]
    rfl
  have renew : election.renewViolations jitter (path.child "renewDeadline") =
      Rule.reports [.when (¬ jitter.isOutlasted election.renewDeadline election.retryPeriod)
        (.invalid (path.child "renewDeadline") (.duration election.renewDeadline) renewRule)] := by
    rw [Rule.reports_cons, Rule.reports_nil, List.append_nil]
    by_cases outlasted : jitter.isOutlasted election.renewDeadline election.retryPeriod
    · simp [renewViolations, outlasted]
    · simp [renewViolations, outlasted]
  simp only [violations, rules, Check.positiveDuration_eq_reports, Check.setting_eq_reports, lease,
    renew, ← Rule.reports_append]
  rfl

theorem HealthCheck.violations_eq_reports (check : HealthCheck) (path : FieldPath) :
    check.violations path = Rule.reports (check.rules path) := by
  simp only [violations, rules, Check.positive_eq_reports, ← Rule.reports_append]
  rfl

namespace FeatureGate

theorem violationsAfter_eq (registry : FeatureRegistry) (gates : List FeatureGate)
    (gate : FeatureGate) (position : Nat) (path : FieldPath) (earlier : List String)
    (same : gate.name ∈ earlier ↔ IsRepeated gates position gate) :
    gate.violationsAfter registry earlier path =
      gate.violationsAt registry gates position path := by
  by_cases repeated : IsRepeated gates position gate
  · rw [violationsAfter, if_pos (same.mpr repeated), violationsAt, if_pos repeated]
  · rw [violationsAfter, if_neg (fun member => repeated (same.mp member)), violationsAt,
      if_neg repeated]
    rfl

theorem listViolations_eq_from (registry : FeatureRegistry) (path : FieldPath)
    (gates front rest : List FeatureGate) (parts : gates = front ++ rest) :
    listViolations registry path front.length (front.map name).reverse rest =
      (rest.zipIdx front.length).flatMap fun (gate, position) =>
        gate.violationsAt registry gates position (path.item position) := by
  -- Induction over the gates that are left; those in front of them have been checked.
  induction rest generalizing front with
  | nil => rfl
  | cons gate rest ih =>
      have same : gate.name ∈ (front.map name).reverse ↔
          IsRepeated gates front.length gate := by
        rw [IsRepeated, parts, List.take_left, List.mem_reverse]
      have later := ih (front ++ [gate]) (by rw [parts, List.append_assoc]; rfl)
      simp only [List.length_append, List.length_singleton, List.map_append, List.map_singleton,
        List.reverse_append, List.reverse_singleton, List.singleton_append] at later
      rw [listViolations, violationsAfter_eq registry gates gate _ _ _ same, later,
        List.zipIdx_cons, List.flatMap_cons]

theorem listViolations_eq (registry : FeatureRegistry) (path : FieldPath)
    (gates : List FeatureGate) :
    listViolations registry path 0 [] gates =
      gates.zipIdx.flatMap fun (gate, position) =>
        gate.violationsAt registry gates position (path.item position) :=
  listViolations_eq_from registry path gates [] gates rfl

theorem violationsAt_eq_reports (registry : FeatureRegistry) (gates : List FeatureGate)
    (gate : FeatureGate) (position : Nat) (path : FieldPath) :
    gate.violationsAt registry gates position path =
      Rule.reports (gate.rules registry gates position path) := by
  by_cases repeated : IsRepeated gates position gate
  · rw [violationsAt, if_pos repeated]
    simp [rules, Rule.reports_cons, repeated]
  · rw [violationsAt, if_neg repeated, Check.setting_eq_reports]
    by_cases empty : gate.name = ""
    · simp [rules, Rule.setting, Rule.reports_cons, repeated, empty]
    · by_cases known : gate.name ∈ registry.names
      · simp [rules, Rule.setting, Rule.reports_cons, repeated, empty, known]
      · simp [rules, Rule.setting, Rule.reports_cons, repeated, empty, known]

theorem listViolations_eq_reports (registry : FeatureRegistry) (path : FieldPath)
    (gates : List FeatureGate) :
    listViolations registry path 0 [] gates = Rule.reports (listRules registry path gates) := by
  rw [listViolations_eq, listRules, Rule.reports_flatMap]
  simp only [violationsAt_eq_reports]

end FeatureGate

theorem OperatorSpec.violations_eq_reports (jitter : JitterFactor) (registry : FeatureRegistry)
    (spec : OperatorSpec) (path : FieldPath) :
    spec.violations jitter registry path = Rule.reports (spec.rules jitter registry path) := by
  simp only [violations, rules, Check.setting_eq_reports, ClusterDelays.violations_eq_reports,
    LeaderElection.violations_eq_reports, FeatureGate.listViolations_eq_reports,
    HealthCheck.violations_eq_reports, Rule.reports_append]

end FederationConfig
