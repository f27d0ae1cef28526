import FederationConfig.TypeConfig.Record
import FederationConfig.Proofs.Resource.RoundTrip

namespace FederationConfig

structure TypeConfigSpec.Readable (spec : TypeConfigSpec) : Prop where
  targetType : spec.targetType.Readable
  federatedType : spec.federatedType.Readable
  statusType : ∀ resource ∈ spec.statusType, resource.Readable
  propagation : spec.propagation.IsReadable
  statusCollection : ∀ setting ∈ spec.statusCollection, setting.IsReadable

structure TypeConfigStatus.Readable (status : TypeConfigStatus) : Prop where
  propagationController : status.propagationController.IsReadable
  statusController : ∀ setting ∈ status.statusController, setting.IsReadable

structure TypeConfig.Readable (config : TypeConfig) : Prop where
  spec : config.spec.Readable
  status : config.status.Readable

theorem ResourceType.readable_blank : ({} : ResourceType).Readable := ⟨Setting.isReadable_missing⟩

theorem TypeConfigSpec.readable_blank : ({} : TypeConfigSpec).Readable where
  targetType := ResourceType.readable_blank
  federatedType := ResourceType.readable_blank
  statusType _ absent := nomatch absent
  propagation := Setting.isReadable_missing
  statusCollection _ absent := nomatch absent

theorem TypeConfigStatus.readable_blank : ({} : TypeConfigStatus).Readable where
  propagationController := Setting.isReadable_missing
  statusController _ absent := nomatch absent

theorem TypeConfigSpec.record_restorable :
    TypeConfigSpec.record.Restorable TypeConfigSpec.Readable where
  names := record_names
  restores _ readable :=
    .cons (Field.ofCodec_restores ResourceType.record_restorable.lossless readable.targetType _) <|
    .cons (Field.ofCodec_restores ResourceType.record_restorable.lossless
      readable.federatedType _) <|
    .cons (Field.optional_restores ResourceType.record_restorable.lossless
      readable.statusType rfl) <|
    .cons (Field.ofCodec_restores Codec.setting_lossless readable.propagation _) <|
    .cons (Field.optional_restores Codec.setting_lossless readable.statusCollection rfl) <|
    .nil _
  blank := readable_blank
  keeps := by
    have resource := ResourceType.record_restorable.lossless
    simp only [record, List.forall_mem_cons]
    refine ⟨?_, ?_, ?_, ?_, ?_, List.forall_mem_nil _⟩
    · exact Field.ofCodec_keeps resource fun _ _ readable given =>
        { readable with targetType := given }
    · exact Field.ofCodec_keeps resource fun _ _ readable given =>
        { readable with federatedType := given }
    · exact Field.optional_keeps resource fun _ _ readable given =>
        { readable with statusType := given }
    · exact Field.ofCodec_keeps Codec.setting_lossless fun _ _ readable given =>
        { readable with propagation := given }
    · exact Field.optional_keeps Codec.setting_lossless fun _ _ readable given =>
        { readable with statusCollection := given }

theorem TypeConfigStatus.record_restorable :
    TypeConfigStatus.record.Restorable TypeConfigStatus.Readable where
  names := record_names
  restores _ readable :=
    .cons (Field.ofCodec_restores Codec.int64_lossless trivial _) <|
    .cons (Field.ofCodec_restores Codec.setting_lossless readable.propagationController _) <|
    .cons (Field.optional_restores Codec.setting_lossless readable.statusController rfl) <|
    .nil _
  blank := readable_blank
  keeps := by
    simp only [record, List.forall_mem_cons]
    refine ⟨?_, ?_, ?_, List.forall_mem_nil _⟩
    · exact Field.ofCodec_keeps Codec.int64_lossless fun _ _ readable _ => { readable with }
    · exact Field.ofCodec_keeps Codec.setting_lossless fun _ _ readable given =>
        { readable with propagationController := given }
    · exact Field.optional_keeps Codec.setting_lossless fun _ _ readable given =>
        { readable with statusController := given }

theorem TypeConfig.record_restorable : TypeConfig.record.Restorable TypeConfig.Readable where
  names := record_names
  restores _ readable :=
    .cons (Field.ofCodec_restores Codec.text_lossless trivial _) <|
    .cons (Field.ofCodec_restores Metadata.record_restorable.lossless trivial _) <|
    .cons (Field.ofCodec_restores TypeConfigSpec.record_restorable.lossless readable.spec _) <|
    .cons (Field.ofCodec_restores TypeConfigStatus.record_restorable.lossless
      readable.status _) <|
    .nil _
  blank := ⟨TypeConfigSpec.readable_blank, TypeConfigStatus.readable_blank⟩
  keeps := by
    simp only [record, List.forall_mem_cons]
    refine ⟨?_, ?_, ?_, ?_, List.forall_mem_nil _⟩
    · exact Field.ofCodec_keeps Codec.text_lossless fun _ _ readable _ => { readable with }
    · exact Field.ofCodec_keeps Metadata.record_restorable.lossless fun _ _ readable _ =>
        { readable with }
    · exact Field.ofCodec_keeps TypeConfigSpec.record_restorable.lossless
        fun _ _ readable given => { readable with spec := given }
    · exact Field.ofCodec_keeps TypeConfigStatus.record_restorable.lossless
        fun _ _ readable given => { readable with status := given }

end FederationConfig
