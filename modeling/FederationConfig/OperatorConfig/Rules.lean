import FederationConfig.Check
import FederationConfig.Jitter
import FederationConfig.OperatorConfig.Basic

namespace FederationConfig

def leaseRule : String := "leaseDuration must be greater than renewDeadline"

def renewRule : String := "renewDeadline must be greater than retryPeriod*JitterFactor"

def ClusterDelays.violations (delays : ClusterDelays) (path : FieldPath) : Violations :=
  Check.positiveDuration (path.child "availableDelay") delays.availableDelay ++
    Check.positiveDuration (path.child "unavailableDelay") delays.unavailableDelay

namespace LeaderElection

/-- A leader holds its lease for longer than it tries to renew it. -/
def leaseViolations (election : LeaderElection) (path : FieldPath) : Violations :=
  if election.leaseDuration ≤ election.renewDeadline then
    [.invalid path (.duration election.leaseDuration) leaseRule]
  else []

/-- The deadline leaves time for a retry, jitter included. -/
def renewViolations (jitter : JitterFactor) (election : LeaderElection) (path : FieldPath) :
    Violations :=
  if jitter.isOutlasted election.renewDeadline election.retryPeriod then []
  else [.invalid path (.duration election.renewDeadline) renewRule]

def violations (jitter : JitterFactor) (election : LeaderElection) (path : FieldPath) :
    Violations :=
  Check.positiveDuration (path.child "leaseDuration") election.leaseDuration ++
    Check.positiveDuration (path.child "renewDeadline") election.renewDeadline ++
    Check.positiveDuration (path.child "retryPeriod") election.retryPeriod ++
    election.leaseViolations (path.child "leaseDuration") ++
    election.renewViolations jitter (path.child "renewDeadline") ++
    Check.setting (path.child "resourceLock") election.resourceLock

end LeaderElection

namespace FeatureGate

/-- A gate whose name an earlier one has is only reported as a duplicate. -/
def violationsAfter (registry : FeatureRegistry) (earlier : List String) (gate : FeatureGate)
    (path : FieldPath) : Violations :=
  if gate.name ∈ earlier then [.duplicate (path.child "name") (.text gate.name)]
  else
    Check.oneOf (path.child "name") gate.name registry.names ++
      Check.setting (path.child "configuration") gate.configuration

def listViolations (registry : FeatureRegistry) (path : FieldPath) :
    Nat → List String → List FeatureGate → Violations
  | _, _, [] => []
  | position, earlier, gate :: rest =>
    gate.violationsAfter registry earlier (path.item position) ++
      listViolations registry path (position + 1) (gate.name :: earlier) rest

end FeatureGate

def HealthCheck.violations (check : HealthCheck) (path : FieldPath) : Violations :=
  Check.positive (path.child "periodSeconds") check.periodSeconds ++
    Check.positive (path.child "failureThreshold") check.failureThreshold ++
    Check.positive (path.child "successThreshold") check.successThreshold ++
    Check.positive (path.child "timeoutSeconds") check.timeoutSeconds

def OperatorSpec.violations (jitter : JitterFactor) (registry : FeatureRegistry)
    (spec : OperatorSpec) (path : FieldPath) : Violations :=
  Check.setting (path.child "scope") spec.scope ++
    spec.clusterDelays.violations (path.child "controllerDuration") ++
    spec.leaderElection.violations jitter (path.child "leaderElect") ++
    FeatureGate.listViolations registry (path.child "featureGates") 0 [] spec.featureGates ++
    spec.healthCheck.violations (path.child "clusterHealthCheck") ++
    Check.setting ((path.child "syncController").child "adoptResources")
      spec.syncPolicy.adoptResources

def OperatorConfig.violations (jitter : JitterFactor) (registry : FeatureRegistry)
    (config : OperatorConfig) : Violations :=
  config.spec.violations jitter registry (.ofRoot "spec")

end FederationConfig
