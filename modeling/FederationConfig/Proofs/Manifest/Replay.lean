import FederationConfig.Manifest.Decoding
import FederationConfig.Proofs.Record.Replay

namespace FederationConfig

theorem Metadata.record_replays : Metadata.record.codec.Replays := by
  apply Record.replay_eq
  simp only [record, List.forall_mem_cons]
  exact ⟨Field.ofCodec_replays Codec.text_replays _ _,
    Field.optional_replays Codec.text_replays _ _, List.forall_mem_nil _⟩

theorem ResourceType.record_replays : ResourceType.record.codec.Replays := by
  apply Record.replay_eq
  simp only [record, List.forall_mem_cons]
  exact ⟨Field.ofCodec_replays Codec.text_replays _ _,
    Field.ofCodec_replays Codec.text_replays _ _,
    Field.ofCodec_replays Codec.text_replays _ _,
    Field.ofCodec_replays Codec.text_replays _ _,
    Field.ofCodec_replays Codec.setting_replays _ _, List.forall_mem_nil _⟩

theorem TypeConfigSpec.record_replays : TypeConfigSpec.record.codec.Replays := by
  apply Record.replay_eq
  simp only [record, List.forall_mem_cons]
  exact ⟨Field.ofCodec_replays ResourceType.record_replays _ _,
    Field.ofCodec_replays ResourceType.record_replays _ _,
    Field.optional_replays ResourceType.record_replays _ _,
    Field.ofCodec_replays Codec.setting_replays _ _,
    Field.optional_replays Codec.setting_replays _ _, List.forall_mem_nil _⟩

theorem TypeConfigStatus.record_replays : TypeConfigStatus.record.codec.Replays := by
  apply Record.replay_eq
  simp only [record, List.forall_mem_cons]
  exact ⟨Field.ofCodec_replays Codec.int64_replays _ _,
    Field.ofCodec_replays Codec.setting_replays _ _,
    Field.optional_replays Codec.setting_replays _ _, List.forall_mem_nil _⟩

theorem TypeConfig.record_replays : TypeConfig.record.codec.Replays := by
  apply Record.replay_eq
  simp only [record, List.forall_mem_cons]
  exact ⟨Field.ofCodec_replays Codec.text_replays _ _,
    Field.ofCodec_replays Metadata.record_replays _ _,
    Field.ofCodec_replays TypeConfigSpec.record_replays _ _,
    Field.ofCodec_replays TypeConfigStatus.record_replays _ _, List.forall_mem_nil _⟩

theorem ClusterDelays.record_replays : ClusterDelays.record.codec.Replays := by
  apply Record.replay_eq
  simp only [record, List.forall_mem_cons]
  exact ⟨Field.ofCodec_replays Codec.duration_replays _ _,
    Field.ofCodec_replays Codec.duration_replays _ _, List.forall_mem_nil _⟩

theorem LeaderElection.record_replays : LeaderElection.record.codec.Replays := by
  apply Record.replay_eq
  simp only [record, List.forall_mem_cons]
  exact ⟨Field.ofCodec_replays Codec.duration_replays _ _,
    Field.ofCodec_replays Codec.duration_replays _ _,
    Field.ofCodec_replays Codec.duration_replays _ _,
    Field.ofCodec_replays Codec.setting_replays _ _, List.forall_mem_nil _⟩

theorem FeatureGate.record_replays : FeatureGate.record.codec.Replays := by
  apply Record.replay_eq
  simp only [record, List.forall_mem_cons]
  exact ⟨Field.ofCodec_replays Codec.text_replays _ _,
    Field.ofCodec_replays Codec.setting_replays _ _, List.forall_mem_nil _⟩

theorem HealthCheck.record_replays : HealthCheck.record.codec.Replays := by
  apply Record.replay_eq
  simp only [record, List.forall_mem_cons]
  exact ⟨Field.ofCodec_replays Codec.int64_replays _ _,
    Field.ofCodec_replays Codec.int64_replays _ _,
    Field.ofCodec_replays Codec.int64_replays _ _,
    Field.ofCodec_replays Codec.int64_replays _ _, List.forall_mem_nil _⟩

theorem SyncPolicy.record_replays : SyncPolicy.record.codec.Replays := by
  apply Record.replay_eq
  simp only [record, List.forall_mem_singleton]
  exact Field.ofCodec_replays Codec.setting_replays _ _

theorem OperatorSpec.record_replays : OperatorSpec.record.codec.Replays := by
  apply Record.replay_eq
  simp only [record, List.forall_mem_cons]
  exact ⟨Field.ofCodec_replays Codec.setting_replays _ _,
    Field.ofCodec_replays ClusterDelays.record_replays _ _,
    Field.ofCodec_replays LeaderElection.record_replays _ _,
    Field.ofCodec_replays (Codec.list_replays FeatureGate.record_replays) _ _,
    Field.ofCodec_replays HealthCheck.record_replays _ _,
    Field.ofCodec_replays SyncPolicy.record_replays _ _, List.forall_mem_nil _⟩

theorem OperatorConfig.record_replays : OperatorConfig.record.codec.Replays := by
  apply Record.replay_eq
  simp only [record, List.forall_mem_cons]
  exact ⟨Field.ofCodec_replays Codec.text_replays _ _,
    Field.ofCodec_replays Metadata.record_replays _ _,
    Field.ofCodec_replays OperatorSpec.record_replays _ _, List.forall_mem_nil _⟩

/-- An object that was held back is read as it is directly. -/
theorem Manifest.replay_eq_ofObject (kind : ManifestKind) (held : Buffered) :
    replay kind held = ofObject kind held.toTree := by
  cases kind with
  | typeConfig => exact congrArg (Except.map typeConfig) (TypeConfig.record_replays held)
  | operatorConfig =>
      exact congrArg (Except.map operatorConfig) (OperatorConfig.record_replays held)

end FederationConfig
