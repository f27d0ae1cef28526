import FederationConfig.OperatorConfig.Record
import FederationConfig.Proofs.Resource.RoundTrip

namespace FederationConfig

structure ClusterDelays.Readable (delays : ClusterDelays) : Prop where
  availableDelay : delays.availableDelay.Fits
  unavailableDelay : delays.unavailableDelay.Fits

structure LeaderElection.Readable (election : LeaderElection) : Prop where
  leaseDuration : election.leaseDuration.Fits
  renewDeadline : election.renewDeadline.Fits
  retryPeriod : election.retryPeriod.Fits
  resourceLock : election.resourceLock.IsReadable

structure FeatureGate.Readable (gate : FeatureGate) : Prop where
  configuration : gate.configuration.IsReadable

structure SyncPolicy.Readable (policy : SyncPolicy) : Prop where
  adoptResources : policy.adoptResources.IsReadable

structure OperatorSpec.Readable (spec : OperatorSpec) : Prop where
  scope : spec.scope.IsReadable
  clusterDelays : spec.clusterDelays.Readable
  leaderElection : spec.leaderElection.Readable
  featureGates : ∀ gate ∈ spec.featureGates, gate.Readable
  syncPolicy : spec.syncPolicy.Readable

structure OperatorConfig.Readable (config : OperatorConfig) : Prop where
  spec : config.spec.Readable

theorem Duration.fits_zero : zero.Fits := by decide

theorem ClusterDelays.readable_blank : ({} : ClusterDelays).Readable :=
  ⟨Duration.fits_zero, Duration.fits_zero⟩

theorem LeaderElection.readable_blank : ({} : LeaderElection).Readable :=
  ⟨Duration.fits_zero, Duration.fits_zero, Duration.fits_zero, Setting.isReadable_missing⟩

theorem OperatorSpec.readable_blank : ({} : OperatorSpec).Readable where
  scope := Setting.isReadable_missing
  clusterDelays := ClusterDelays.readable_blank
  leaderElection := LeaderElection.readable_blank
  featureGates _ member := nomatch member
  syncPolicy := ⟨Setting.isReadable_missing⟩

theorem ClusterDelays.record_restorable :
    ClusterDelays.record.Restorable ClusterDelays.Readable where
  names := record_names
  restores _ readable :=
    .cons (Field.ofCodec_restores Codec.duration_lossless readable.availableDelay _) <|
    .cons (Field.ofCodec_restores Codec.duration_lossless readable.unavailableDelay _) <|
    .nil _
  blank := readable_blank
  keeps := by
    simp only [record, List.forall_mem_cons]
    refine ⟨?_, ?_, List.forall_mem_nil _⟩
    · exact Field.ofCodec_keeps Codec.duration_lossless fun _ _ readable given =>
        { readable with availableDelay := given }
    · exact Field.ofCodec_keeps Codec.duration_lossless fun _ _ readable given =>
        { readable with unavailableDelay := given }

theorem LeaderElection.record_restorable :
    LeaderElection.record.Restorable LeaderElection.Readable where
  names := record_names
  restores _ readable :=
    .cons (Field.ofCodec_restores Codec.duration_lossless readable.leaseDuration _) <|
    .cons (Field.ofCodec_restores Codec.duration_lossless readable.renewDeadline _) <|
    .cons (Field.ofCodec_restores Codec.duration_lossless readable.retryPeriod _) <|
    .cons (Field.ofCodec_restores Codec.setting_lossless readable.resourceLock _) <|
    .nil _
  blank := readable_blank
  keeps := by
    simp only [record, List.forall_mem_cons]
    refine ⟨?_, ?_, ?_, ?_, List.forall_mem_nil _⟩
    · exact Field.ofCodec_keeps Codec.duration_lossless fun _ _ readable given =>
        { readable with leaseDuration := given }
    · exact Field.ofCodec_keeps Codec.duration_lossless fun _ _ readable given =>
        { readable with renewDeadline := given }
    · exact Field.ofCodec_keeps Codec.duration_lossless fun _ _ readable given =>
        { readable with retryPeriod := given }
    · exact Field.ofCodec_keeps Codec.setting_lossless fun _ _ readable given =>
        { readable with resourceLock := given }

theorem FeatureGate.record_restorable : FeatureGate.record.Restorable FeatureGate.Readable where
  names := record_names
  restores _ readable :=
    .cons (Field.ofCodec_restores Codec.text_lossless trivial _) <|
    .cons (Field.ofCodec_restores Codec.setting_lossless readable.configuration _) <|
    .nil _
  blank := ⟨Setting.isReadable_missing⟩
  keeps := by
    simp only [record, List.forall_mem_cons]
    refine ⟨?_, ?_, List.forall_mem_nil _⟩
    · exact Field.ofCodec_keeps Codec.text_lossless fun _ _ readable _ => { readable with }
    · exact Field.ofCodec_keeps Codec.setting_lossless fun _ _ _ given => ⟨given⟩

theorem HealthCheck.record_restorable : HealthCheck.record.Restorable fun _ => True where
  names := record_names
  restores _ _ :=
    .cons (Field.ofCodec_restores Codec.int64_lossless trivial _) <|
    .cons (Field.ofCodec_restores Codec.int64_lossless trivial _) <|
    .cons (Field.ofCodec_restores Codec.int64_lossless trivial _) <|
    .cons (Field.ofCodec_restores Codec.int64_lossless trivial _) <|
    .nil _
  blank := trivial
  keeps _ _ _ _ _ _ _ := trivial

theorem SyncPolicy.record_restorable : SyncPolicy.record.Restorable SyncPolicy.Readable where
  names := record_names
  restores _ readable :=
    .cons (Field.ofCodec_restores Codec.setting_lossless readable.adoptResources _) (.nil _)
  blank := ⟨Setting.isReadable_missing⟩
  keeps := by
    simp only [record, List.forall_mem_singleton]
    exact Field.ofCodec_keeps Codec.setting_lossless fun _ _ _ given => ⟨given⟩

theorem OperatorSpec.record_restorable :
    OperatorSpec.record.Restorable OperatorSpec.Readable where
  names := record_names
  restores _ readable :=
    .cons (Field.ofCodec_restores Codec.setting_lossless readable.scope _) <|
    .cons (Field.ofCodec_restores ClusterDelays.record_restorable.lossless
      readable.clusterDelays _) <|
    .cons (Field.ofCodec_restores LeaderElection.record_restorable.lossless
      readable.leaderElection _) <|
    .cons (Field.ofCodec_restores (Codec.list_lossless FeatureGate.record_restorable.lossless)
      readable.featureGates _) <|
    .cons (Field.ofCodec_restores HealthCheck.record_restorable.lossless trivial _) <|
    .cons (Field.ofCodec_restores SyncPolicy.record_restorable.lossless readable.syncPolicy _) <|
    .nil _
  blank := readable_blank
  keeps := by
    have gates := Codec.list_lossless FeatureGate.record_restorable.lossless
    simp only [record, List.forall_mem_cons]
    refine ⟨?_, ?_, ?_, ?_, ?_, ?_, List.forall_mem_nil _⟩
    · exact Field.ofCodec_keeps Codec.setting_lossless fun _ _ readable given =>
        { readable with scope := given }
    · exact Field.ofCodec_keeps ClusterDelays.record_restorable.lossless
        fun _ _ readable given => { readable with clusterDelays := given }
    · exact Field.ofCodec_keeps LeaderElection.record_restorable.lossless
        fun _ _ readable given => { readable with leaderElection := given }
    · exact Field.ofCodec_keeps gates fun _ _ readable given =>
        { readable with featureGates := given }
    · exact Field.ofCodec_keeps HealthCheck.record_restorable.lossless
        fun _ _ readable _ => { readable with }
    · exact Field.ofCodec_keeps SyncPolicy.record_restorable.lossless
        fun _ _ readable given => { readable with syncPolicy := given }

theorem OperatorConfig.record_restorable :
    OperatorConfig.record.Restorable OperatorConfig.Readable where
  names := record_names
  restores _ readable :=
    .cons (Field.ofCodec_restores Codec.text_lossless trivial _) <|
    .cons (Field.ofCodec_restores Metadata.record_restorable.lossless trivial _) <|
    .cons (Field.ofCodec_restores OperatorSpec.record_restorable.lossless readable.spec _) <|
    .nil _
  blank := ⟨OperatorSpec.readable_blank⟩
  keeps := by
    simp only [record, List.forall_mem_cons]
    refine ⟨?_, ?_, ?_, List.forall_mem_nil _⟩
    · exact Field.ofCodec_keeps Codec.text_lossless fun _ _ readable _ => { readable with }
    · exact Field.ofCodec_keeps Metadata.record_restorable.lossless fun _ _ readable _ =>
        { readable with }
    · exact Field.ofCodec_keeps OperatorSpec.record_restorable.lossless
        fun _ _ _ given => ⟨given⟩

end FederationConfig
