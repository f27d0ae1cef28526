import FederationConfig.Duration.Basic
import FederationConfig.Feature
import FederationConfig.Resource.Basic

namespace FederationConfig

structure ClusterDelays where
  availableDelay : Duration := .zero
  unavailableDelay : Duration := .zero
  deriving DecidableEq, Repr, Inhabited

structure LeaderElection where
  leaseDuration : Duration := .zero
  renewDeadline : Duration := .zero
  retryPeriod : Duration := .zero
  resourceLock : Setting ResourceLock := .missing
  deriving DecidableEq, Repr, Inhabited

structure HealthCheck where
  periodSeconds : Int64 := 0
  failureThreshold : Int64 := 0
  successThreshold : Int64 := 0
  timeoutSeconds : Int64 := 0
  deriving DecidableEq, Repr, Inhabited

structure SyncPolicy where
  adoptResources : Setting Toggle := .missing
  deriving DecidableEq, Repr, Inhabited

structure OperatorSpec where
  scope : Setting Scope := .missing
  clusterDelays : ClusterDelays := {}
  leaderElection : LeaderElection := {}
  featureGates : List FeatureGate := []
  healthCheck : HealthCheck := {}
  syncPolicy : SyncPolicy := {}
  deriving DecidableEq, Repr, Inhabited

structure OperatorConfig where
  apiVersion : String := ""
  metadata : Metadata := {}
  spec : OperatorSpec := {}
  deriving DecidableEq, Repr, Inhabited

end FederationConfig
