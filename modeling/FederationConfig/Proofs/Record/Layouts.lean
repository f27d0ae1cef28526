import FederationConfig.OperatorConfig.Record
import FederationConfig.TypeConfig.Record
import FederationConfig.Proofs.Record.Layout

namespace FederationConfig

def Metadata.layout : Metadata.record.Layout where
  slots := [
    .of "name" (.plain .text) Metadata.name
      (fun record value => { record with name := value }) fun _ _ => rfl,
    .of "namespace" (.optional (.plain .text)) Metadata.enclosing
      (fun record value => { record with enclosing := value }) fun _ _ => rfl]
  reads :=
    .cons (Slot.reads_ofCodec fun _ => rfl) <|
    .cons (Slot.reads_optional fun _ => rfl) .nil
  names := record_names

def ResourceType.layout : ResourceType.record.Layout where
  slots := [
    .of "group" (.plain .text) ResourceType.group
      (fun record value => { record with group := value }) fun _ _ => rfl,
    .of "version" (.plain .text) ResourceType.version
      (fun record value => { record with version := value }) fun _ _ => rfl,
    .of "kind" (.plain .text) ResourceType.kind
      (fun record value => { record with kind := value }) fun _ _ => rfl,
    .of "pluralName" (.plain .text) ResourceType.pluralName
      (fun record value => { record with pluralName := value }) fun _ _ => rfl,
    .of "scope" .setting ResourceType.scope
      (fun record value => { record with scope := value }) fun _ _ => rfl]
  reads :=
    .cons (Slot.reads_ofCodec fun _ => rfl) <|
    .cons (Slot.reads_ofCodec fun _ => rfl) <|
    .cons (Slot.reads_ofCodec fun _ => rfl) <|
    .cons (Slot.reads_ofCodec fun _ => rfl) <|
    .cons (Slot.reads_ofCodec fun _ => rfl) .nil
  names := record_names

def TypeConfigSpec.layout : TypeConfigSpec.record.Layout where
  slots := [
    .of "targetType" ResourceType.layout.shape TypeConfigSpec.targetType
      (fun record value => { record with targetType := value }) fun _ _ => rfl,
    .of "federatedType" ResourceType.layout.shape TypeConfigSpec.federatedType
      (fun record value => { record with federatedType := value }) fun _ _ => rfl,
    .of "statusType" (.optional ResourceType.layout.shape) TypeConfigSpec.statusType
      (fun record value => { record with statusType := value }) fun _ _ => rfl,
    .of "propagation" .setting TypeConfigSpec.propagation
      (fun record value => { record with propagation := value }) fun _ _ => rfl,
    .of "statusCollection" (.optional .setting) TypeConfigSpec.statusCollection
      (fun record value => { record with statusCollection := value }) fun _ _ => rfl]
  reads :=
    .cons (Slot.reads_ofCodec fun _ => rfl) <|
    .cons (Slot.reads_ofCodec fun _ => rfl) <|
    .cons (Slot.reads_optional fun _ => rfl) <|
    .cons (Slot.reads_ofCodec fun _ => rfl) <|
    .cons (Slot.reads_optional fun _ => rfl) .nil
  names := record_names

def TypeConfigStatus.layout : TypeConfigStatus.record.Layout where
  slots := [
    .of "observedGeneration" (.plain .int64) TypeConfigStatus.observedGeneration
      (fun record value => { record with observedGeneration := value }) fun _ _ => rfl,
    .of "propagationController" .setting TypeConfigStatus.propagationController
      (fun record value => { record with propagationController := value }) fun _ _ => rfl,
    .of "statusController" (.optional .setting) TypeConfigStatus.statusController
      (fun record value => { record with statusController := value }) fun _ _ => rfl]
  reads :=
    .cons (Slot.reads_ofCodec fun _ => rfl) <|
    .cons (Slot.reads_ofCodec fun _ => rfl) <|
    .cons (Slot.reads_optional fun _ => rfl) .nil
  names := record_names

def TypeConfig.layout : TypeConfig.record.Layout where
  slots := [
    .of "apiVersion" (.plain .text) TypeConfig.apiVersion
      (fun record value => { record with apiVersion := value }) fun _ _ => rfl,
    .of "metadata" Metadata.layout.shape TypeConfig.metadata
      (fun record value => { record with metadata := value }) fun _ _ => rfl,
    .of "spec" TypeConfigSpec.layout.shape TypeConfig.spec
      (fun record value => { record with spec := value }) fun _ _ => rfl,
    .of "status" TypeConfigStatus.layout.shape TypeConfig.status
      (fun record value => { record with status := value }) fun _ _ => rfl]
  reads :=
    .cons (Slot.reads_ofCodec fun _ => rfl) <|
    .cons (Slot.reads_ofCodec fun _ => rfl) <|
    .cons (Slot.reads_ofCodec fun _ => rfl) <|
    .cons (Slot.reads_ofCodec fun _ => rfl) .nil
  names := record_names

def ClusterDelays.layout : ClusterDelays.record.Layout where
  slots := [
    .of "availableDelay" (.plain .duration) ClusterDelays.availableDelay
      (fun record value => { record with availableDelay := value }) fun _ _ => rfl,
    .of "unavailableDelay" (.plain .duration) ClusterDelays.unavailableDelay
      (fun record value => { record with unavailableDelay := value }) fun _ _ => rfl]
  reads :=
    .cons (Slot.reads_ofCodec fun _ => rfl) <|
    .cons (Slot.reads_ofCodec fun _ => rfl) .nil
  names := record_names

def LeaderElection.layout : LeaderElection.record.Layout where
  slots := [
    .of "leaseDuration" (.plain .duration) LeaderElection.leaseDuration
      (fun record value => { record with leaseDuration := value }) fun _ _ => rfl,
    .of "renewDeadline" (.plain .duration) LeaderElection.renewDeadline
      (fun record value => { record with renewDeadline := value }) fun _ _ => rfl,
    .of "retryPeriod" (.plain .duration) LeaderElection.retryPeriod
      (fun record value => { record with retryPeriod := value }) fun _ _ => rfl,
    .of "resourceLock" .setting LeaderElection.resourceLock
      (fun record value => { record with resourceLock := value }) fun _ _ => rfl]
  reads :=
    .cons (Slot.reads_ofCodec fun _ => rfl) <|
    .cons (Slot.reads_ofCodec fun _ => rfl) <|
    .cons (Slot.reads_ofCodec fun _ => rfl) <|
    .cons (Slot.reads_ofCodec fun _ => rfl) .nil
  names := record_names

def FeatureGate.layout : FeatureGate.record.Layout where
  slots := [
    .of "name" (.plain .text) FeatureGate.name
      (fun record value => { record with name := value }) fun _ _ => rfl,
    .of "configuration" .setting FeatureGate.configuration
      (fun record value => { record with configuration := value }) fun _ _ => rfl]
  reads :=
    .cons (Slot.reads_ofCodec fun _ => rfl) <|
    .cons (Slot.reads_ofCodec fun _ => rfl) .nil
  names := record_names

def HealthCheck.layout : HealthCheck.record.Layout where
  slots := [
    .of "periodSeconds" (.plain .int64) HealthCheck.periodSeconds
      (fun record value => { record with periodSeconds := value }) fun _ _ => rfl,
    .of "failureThreshold" (.plain .int64) HealthCheck.failureThreshold
      (fun record value => { record with failureThreshold := value }) fun _ _ => rfl,
    .of "successThreshold" (.plain .int64) HealthCheck.successThreshold
      (fun record value => { record with successThreshold := value }) fun _ _ => rfl,
    .of "timeoutSeconds" (.plain .int64) HealthCheck.timeoutSeconds
      (fun record value => { record with timeoutSeconds := value }) fun _ _ => rfl]
  reads :=
    .cons (Slot.reads_ofCodec fun _ => rfl) <|
    .cons (Slot.reads_ofCodec fun _ => rfl) <|
    .cons (Slot.reads_ofCodec fun _ => rfl) <|
    .cons (Slot.reads_ofCodec fun _ => rfl) .nil
  names := record_names

def SyncPolicy.layout : SyncPolicy.record.Layout where
  slots := [
    .of "adoptResources" .setting SyncPolicy.adoptResources
      (fun record value => { record with adoptResources := value }) fun _ _ => rfl]
  reads :=
    .cons (Slot.reads_ofCodec fun _ => rfl) .nil
  names := record_names

def OperatorSpec.layout : OperatorSpec.record.Layout where
  slots := [
    .of "scope" .setting OperatorSpec.scope
      (fun record value => { record with scope := value }) fun _ _ => rfl,
    .of "controllerDuration" ClusterDelays.layout.shape OperatorSpec.clusterDelays
      (fun record value => { record with clusterDelays := value }) fun _ _ => rfl,
    .of "leaderElect" LeaderElection.layout.shape OperatorSpec.leaderElection
      (fun record value => { record with leaderElection := value }) fun _ _ => rfl,
    .of "featureGates" (.list FeatureGate.layout.shape) OperatorSpec.featureGates
      (fun record value => { record with featureGates := value }) fun _ _ => rfl,
    .of "clusterHealthCheck" HealthCheck.layout.shape OperatorSpec.healthCheck
      (fun record value => { record with healthCheck := value }) fun _ _ => rfl,
    .of "syncController" SyncPolicy.layout.shape OperatorSpec.syncPolicy
      (fun record value => { record with syncPolicy := value }) fun _ _ => rfl]
  reads :=
    .cons (Slot.reads_ofCodec fun _ => rfl) <|
    .cons (Slot.reads_ofCodec fun _ => rfl) <|
    .cons (Slot.reads_ofCodec fun _ => rfl) <|
    .cons (Slot.reads_ofCodec fun tree => by cases tree <;> rfl) <|
    .cons (Slot.reads_ofCodec fun _ => rfl) <|
    .cons (Slot.reads_ofCodec fun _ => rfl) .nil
  names := record_names

def OperatorConfig.layout : OperatorConfig.record.Layout where
  slots := [
    .of "apiVersion" (.plain .text) OperatorConfig.apiVersion
      (fun record value => { record with apiVersion := value }) fun _ _ => rfl,
    .of "metadata" Metadata.layout.shape OperatorConfig.metadata
      (fun record value => { record with metadata := value }) fun _ _ => rfl,
    .of "spec" OperatorSpec.layout.shape OperatorConfig.spec
      (fun record value => { record with spec := value }) fun _ _ => rfl]
  reads :=
    .cons (Slot.reads_ofCodec fun _ => rfl) <|
    .cons (Slot.reads_ofCodec fun _ => rfl) <|
    .cons (Slot.reads_ofCodec fun _ => rfl) .nil
  names := record_names

end FederationConfig
