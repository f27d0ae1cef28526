import FederationConfig.Resource.Record
import FederationConfig.Proofs.Record.RoundTrip

namespace FederationConfig

theorem Metadata.record_restorable : Metadata.record.Restorable fun _ => True where
  names := record_names
  restores _ _ :=
    .cons (Field.ofCodec_restores Codec.text_lossless trivial _)
      (.cons (Field.optional_restores Codec.text_lossless (fun _ _ => trivial) rfl) (.nil _))
  blank := trivial
  keeps _ _ _ _ _ _ _ := trivial

structure ResourceType.Readable (resource : ResourceType) : Prop where
  scope : resource.scope.IsReadable

theorem ResourceType.record_restorable : ResourceType.record.Restorable ResourceType.Readable where
  names := record_names
  restores _ readable :=
    .cons (Field.ofCodec_restores Codec.text_lossless trivial _) <|
    .cons (Field.ofCodec_restores Codec.text_lossless trivial _) <|
    .cons (Field.ofCodec_restores Codec.text_lossless trivial _) <|
    .cons (Field.ofCodec_restores Codec.text_lossless trivial _) <|
    .cons (Field.ofCodec_restores Codec.setting_lossless readable.scope _) <|
    .nil _
  blank := ⟨Setting.isReadable_missing⟩
  keeps := by
    simp only [record, List.forall_mem_cons]
    refine ⟨?_, ?_, ?_, ?_, ?_, List.forall_mem_nil _⟩
    · exact Field.ofCodec_keeps Codec.text_lossless fun _ _ readable _ => { readable with }
    · exact Field.ofCodec_keeps Codec.text_lossless fun _ _ readable _ => { readable with }
    · exact Field.ofCodec_keeps Codec.text_lossless fun _ _ readable _ => { readable with }
    · exact Field.ofCodec_keeps Codec.text_lossless fun _ _ readable _ => { readable with }
    · exact Field.ofCodec_keeps Codec.setting_lossless fun _ _ _ scope => ⟨scope⟩

end FederationConfig
