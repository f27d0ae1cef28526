import FederationConfig.Record.Basic
import FederationConfig.Resource.Basic

namespace FederationConfig

def Metadata.record : Record Metadata where
  title := "ObjectMeta"
  fields := [
    .ofCodec "name" .text Metadata.name fun record value => { record with name := value },
    .optional "namespace" .text Metadata.enclosing fun record value =>
      { record with enclosing := value }]
  blank := {}

def ResourceType.record : Record ResourceType where
  title := "ApiResource"
  fields := [
    .ofCodec "group" .text ResourceType.group fun record value => { record with group := value },
    .ofCodec "version" .text ResourceType.version fun record value =>
      { record with version := value },
    .ofCodec "kind" .text ResourceType.kind fun record value => { record with kind := value },
    .ofCodec "pluralName" .text ResourceType.pluralName fun record value =>
      { record with pluralName := value },
    .ofCodec "scope" .setting ResourceType.scope fun record value =>
      { record with scope := value }]
  blank := {}

end FederationConfig
