import FederationConfig.Proofs.Record.Layouts
import FederationConfig.Proofs.Record.Schema

namespace FederationConfig

open Schema

def Metadata.schema : Schema := .record [("name", .scalar), ("namespace", .scalar)]

theorem Metadata.suits_schema : schema.Suits record.read := by
  apply Declares.suits layout
  exact .cons ⟨rfl, suits_text _⟩ <| .cons ⟨rfl, (suits_text _).optional⟩ .nil

def ResourceType.schema : Schema :=
  .record [("group", .scalar), ("version", .scalar), ("kind", .scalar), ("pluralName", .scalar),
    ("scope", .scalar)]

theorem ResourceType.suits_schema : schema.Suits record.read := by
  apply Declares.suits layout
  exact .cons ⟨rfl, suits_text _⟩ <| .cons ⟨rfl, suits_text _⟩ <| .cons ⟨rfl, suits_text _⟩ <|
    .cons ⟨rfl, suits_text _⟩ <| .cons ⟨rfl, suits_setting _⟩ .nil

def TypeConfigSpec.schema : Schema :=
  .record [("targetType", ResourceType.schema), ("federatedType", ResourceType.schema),
    ("statusType", ResourceType.schema), ("propagation", .scalar), ("statusCollection", .scalar)]

theorem TypeConfigSpec.suits_schema : schema.Suits record.read := by
  apply Declares.suits layout
  exact .cons ⟨rfl, ResourceType.suits_schema⟩ <| .cons ⟨rfl, ResourceType.suits_schema⟩ <|
    .cons ⟨rfl, ResourceType.suits_schema.optional⟩ <| .cons ⟨rfl, suits_setting _⟩ <|
    .cons ⟨rfl, (suits_setting _).optional⟩ .nil

def TypeConfigStatus.schema : Schema :=
  .record [("observedGeneration", .scalar), ("propagationController", .scalar),
    ("statusController", .scalar)]

theorem TypeConfigStatus.suits_schema : schema.Suits record.read := by
  apply Declares.suits layout
  exact .cons ⟨rfl, suits_int64 _⟩ <| .cons ⟨rfl, suits_setting _⟩ <|
    .cons ⟨rfl, (suits_setting _).optional⟩ .nil

def TypeConfig.schema : Schema :=
  .record [("apiVersion", .scalar), ("metadata", Metadata.schema), ("spec", TypeConfigSpec.schema),
    ("status", TypeConfigStatus.schema)]

theorem TypeConfig.suits_schema : schema.Suits record.read := by
  apply Declares.suits layout
  exact .cons ⟨rfl, suits_text _⟩ <| .cons ⟨rfl, Metadata.suits_schema⟩ <|
    .cons ⟨rfl, TypeConfigSpec.suits_schema⟩ <| .cons ⟨rfl, TypeConfigStatus.suits_schema⟩ .nil

def ClusterDelays.schema : Schema :=
  .record [("availableDelay", .scalar), ("unavailableDelay", .scalar)]

theorem ClusterDelays.suits_schema : schema.Suits record.read := by
  apply Declares.suits layout
  exact .cons ⟨rfl, suits_duration _⟩ <| .cons ⟨rfl, suits_duration _⟩ .nil

def LeaderElection.schema : Schema :=
  .record [("leaseDuration", .scalar), ("renewDeadline", .scalar), ("retryPeriod", .scalar),
    ("resourceLock", .scalar)]

theorem LeaderElection.suits_schema : schema.Suits record.read := by
  apply Declares.suits layout
  exact .cons ⟨rfl, suits_duration _⟩ <| .cons ⟨rfl, suits_duration _⟩ <|
    .cons ⟨rfl, suits_duration _⟩ <| .cons ⟨rfl, suits_setting _⟩ .nil

def FeatureGate.schema : Schema := .record [("name", .scalar), ("configuration", .scalar)]

theorem FeatureGate.suits_schema : schema.Suits record.read := by
  apply Declares.suits layout
  exact .cons ⟨rfl, suits_text _⟩ <| .cons ⟨rfl, suits_setting _⟩ .nil

def HealthCheck.schema : Schema :=
  .record [("periodSeconds", .scalar), ("failureThreshold", .scalar), ("successThreshold", .scalar),
    ("timeoutSeconds", .scalar)]

theorem HealthCheck.suits_schema : schema.Suits record.read := by
  apply Declares.suits layout
  exact .cons ⟨rfl, suits_int64 _⟩ <| .cons ⟨rfl, suits_int64 _⟩ <|
    .cons ⟨rfl, suits_int64 _⟩ <| .cons ⟨rfl, suits_int64 _⟩ .nil

def SyncPolicy.schema : Schema := .record [("adoptResources", .scalar)]

theorem SyncPolicy.suits_schema : schema.Suits record.read := by
  apply Declares.suits layout
  exact .cons ⟨rfl, suits_setting _⟩ .nil

def OperatorSpec.schema : Schema :=
  .record [("scope", .scalar), ("controllerDuration", ClusterDelays.schema),
    ("leaderElect", LeaderElection.schema), ("featureGates", .list FeatureGate.schema),
    ("clusterHealthCheck", HealthCheck.schema), ("syncController", SyncPolicy.schema)]

theorem OperatorSpec.suits_schema : schema.Suits record.read := by
  apply Declares.suits layout
  exact .cons ⟨rfl, suits_setting _⟩ <| .cons ⟨rfl, ClusterDelays.suits_schema⟩ <|
    .cons ⟨rfl, LeaderElection.suits_schema⟩ <| .cons ⟨rfl, FeatureGate.suits_schema.list⟩ <|
    .cons ⟨rfl, HealthCheck.suits_schema⟩ <| .cons ⟨rfl, SyncPolicy.suits_schema⟩ .nil

def OperatorConfig.schema : Schema :=
  .record [("apiVersion", .scalar), ("metadata", Metadata.schema), ("spec", OperatorSpec.schema)]

theorem OperatorConfig.suits_schema : schema.Suits record.read := by
  apply Declares.suits layout
  exact .cons ⟨rfl, suits_text _⟩ <| .cons ⟨rfl, Metadata.suits_schema⟩ <|
    .cons ⟨rfl, OperatorSpec.suits_schema⟩ .nil

end FederationConfig
