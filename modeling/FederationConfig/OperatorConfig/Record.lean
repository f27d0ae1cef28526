import FederationConfig.OperatorConfig.Basic
import FederationConfig.Resource.Record

namespace FederationConfig

def ClusterDelays.record : Record ClusterDelays where
  title := "ControllerDuration"
  fields := [
    .ofCodec "availableDelay" .duration ClusterDelays.availableDelay
      fun record value => { record with availableDelay := value },
    .ofCodec "unavailableDelay" .duration ClusterDelays.unavailableDelay
      fun record value => { record with unavailableDelay := value }]
  blank := {}

def LeaderElection.record : Record LeaderElection where
  title := "LeaderElectConfig"
  fields := [
    .ofCodec "leaseDuration" .duration LeaderElection.leaseDuration
      fun record value => { record with leaseDuration := value },
    .ofCodec "renewDeadline" .duration LeaderElection.renewDeadline
      fun record value => { record with renewDeadline := value },
    .ofCodec "retryPeriod" .duration LeaderElection.retryPeriod
      fun record value => { record with retryPeriod := value },
    .ofCodec "resourceLock" .setting LeaderElection.resourceLock
      fun record value => { record with resourceLock := value }]
  blank := {}

def FeatureGate.record : Record FeatureGate where
  title := "FeatureGate"
  fields := [
    .ofCodec "name" .text FeatureGate.name fun record value => { record with name := value },
    .ofCodec "configuration" .setting FeatureGate.configuration
      fun record value => { record with configuration := value }]
  blank := {}

def HealthCheck.record : Record HealthCheck where
  title := "ClusterHealthCheckConfig"
  fields := [
    .ofCodec "periodSeconds" .int64 HealthCheck.periodSeconds
      fun record value => { record with periodSeconds := value },
    .ofCodec "failureThreshold" .int64 HealthCheck.failureThreshold
      fun record value => { record with failureThreshold := value },
    .ofCodec "successThreshold" .int64 HealthCheck.successThreshold
      fun record value => { record with successThreshold := value },
    .ofCodec "timeoutSeconds" .int64 HealthCheck.timeoutSeconds
      fun record value => { record with timeoutSeconds := value }]
  blank := {}

def SyncPolicy.record : Record SyncPolicy where
  title := "SyncControllerConfig"
  fields := [
    .ofCodec "adoptResources" .setting SyncPolicy.adoptResources
      fun record value => { record with adoptResources := value }]
  blank := {}

def OperatorSpec.record : Record OperatorSpec where
  title := "OperatorConfigSpec"
  fields := [
    .ofCodec "scope" .setting OperatorSpec.scope fun record value => { record with scope := value },
    .ofCodec "controllerDuration" ClusterDelays.record.codec OperatorSpec.clusterDelays
      fun record value => { record with clusterDelays := value },
    .ofCodec "leaderElect" LeaderElection.record.codec OperatorSpec.leaderElection
      fun record value => { record with leaderElection := value },
    .ofCodec "featureGates" (.list FeatureGate.record.codec) OperatorSpec.featureGates
      fun record value => { record with featureGates := value },
    .ofCodec "clusterHealthCheck" HealthCheck.record.codec OperatorSpec.healthCheck
      fun record value => { record with healthCheck := value },
    .ofCodec "syncController" SyncPolicy.record.codec OperatorSpec.syncPolicy
      fun record value => { record with syncPolicy := value }]
  blank := {}

def OperatorConfig.record : Record OperatorConfig where
  title := "OperatorConfig"
  fields := [
    .ofCodec "apiVersion" .text OperatorConfig.apiVersion
      fun record value => { record with apiVersion := value },
    .ofCodec "metadata" Metadata.record.codec OperatorConfig.metadata
      fun record value => { record with metadata := value },
    .ofCodec "spec" OperatorSpec.record.codec OperatorConfig.spec
      fun record value => { record with spec := value }]
  blank := {}

end FederationConfig
