import FederationConfig.Resource.Record
import FederationConfig.TypeConfig.Basic

namespace FederationConfig

def TypeConfigSpec.record : Record TypeConfigSpec where
  title := "TypeConfigSpec"
  fields := [
    .ofCodec "targetType" ResourceType.record.codec TypeConfigSpec.targetType
      fun record value => { record with targetType := value },
    .ofCodec "federatedType" ResourceType.record.codec TypeConfigSpec.federatedType
      fun record value => { record with federatedType := value },
    .optional "statusType" ResourceType.record.codec TypeConfigSpec.statusType
      fun record value => { record with statusType := value },
    .ofCodec "propagation" .setting TypeConfigSpec.propagation
      fun record value => { record with propagation := value },
    .optional "statusCollection" .setting TypeConfigSpec.statusCollection
      fun record value => { record with statusCollection := value }]
  blank := {}

def TypeConfigStatus.record : Record TypeConfigStatus where
  title := "TypeConfigStatus"
  fields := [
    .ofCodec "observedGeneration" .int64 TypeConfigStatus.observedGeneration
      fun record value => { record with observedGeneration := value },
    .ofCodec "propagationController" .setting TypeConfigStatus.propagationController
      fun record value => { record with propagationController := value },
    .optional "statusController" .setting TypeConfigStatus.statusController
      fun record value => { record with statusController := value }]
  blank := {}

def TypeConfig.record : Record TypeConfig where
  title := "TypeConfig"
  fields := [
    .ofCodec "apiVersion" .text TypeConfig.apiVersion
      fun record value => { record with apiVersion := value },
    .ofCodec "metadata" Metadata.record.codec TypeConfig.metadata
      fun record value => { record with metadata := value },
    .ofCodec "spec" TypeConfigSpec.record.codec TypeConfig.spec
      fun record value => { record with spec := value },
    .ofCodec "status" TypeConfigStatus.record.codec TypeConfig.status
      fun record value => { record with status := value }]
  blank := {}

end FederationConfig
