import FederationConfig.Manifest.Decoding
import FederationConfig.Proofs.OperatorConfig.RoundTrip
import FederationConfig.Proofs.TypeConfig.RoundTrip

namespace FederationConfig.Manifest

def Readable : Manifest → Prop
  | typeConfig config => config.Readable
  | operatorConfig config => config.Readable

def reread (kind : ManifestKind) (object : Tree) : Except DecodeFault Manifest := do
  let manifest ← ofObject kind object
  ofObject kind manifest.toJson.toTree

theorem ofObject_kind {manifest : Manifest} (readable : manifest.Readable) :
    ofObject manifest.kind manifest.toJson.toTree = .ok manifest := by
  cases manifest with
  | typeConfig config =>
      show (TypeConfig.record.read (TypeConfig.record.write config).toTree).map typeConfig = _
      rw [TypeConfig.record_restorable.read_write readable]
      rfl
  | operatorConfig config =>
      show (OperatorConfig.record.read (OperatorConfig.record.write config).toTree).map
        operatorConfig = _
      rw [OperatorConfig.record_restorable.read_write readable]
      rfl

theorem readable_of_ofObject {kind : ManifestKind} {object : Tree} {manifest : Manifest}
    (read : ofObject kind object = .ok manifest) : manifest.kind = kind ∧ manifest.Readable := by
  cases kind with
  | typeConfig =>
      obtain ⟨config, given, rfl⟩ := map_eq_ok.mp read
      exact ⟨rfl, TypeConfig.record_restorable.readable_of_read given⟩
  | operatorConfig =>
      obtain ⟨config, given, rfl⟩ := map_eq_ok.mp read
      exact ⟨rfl, OperatorConfig.record_restorable.readable_of_read given⟩

theorem reread_eq_ofObject (kind : ManifestKind) (object : Tree) :
    reread kind object = ofObject kind object := by
  rw [reread]
  cases read : ofObject kind object with
  | error fault => rfl
  | ok manifest =>
      obtain ⟨rfl, readable⟩ := readable_of_ofObject read
      exact ofObject_kind readable

/-- Reading undoes writing for each readable manifest, only readable manifests are read, and one
that was read once stays the same from there on, as do its violations. -/
theorem ofObject_toJson :
    (∀ manifest : Manifest, manifest.Readable →
      ofObject manifest.kind manifest.toJson.toTree = .ok manifest) ∧
    (∀ (kind : ManifestKind) (object : Tree) (manifest : Manifest),
      ofObject kind object = .ok manifest → manifest.kind = kind ∧ manifest.Readable) ∧
    (∀ (kind : ManifestKind) (object : Tree), reread kind object = ofObject kind object) ∧
    (∀ (policy : Policy) (kind : ManifestKind) (object : Tree),
      (reread kind object).map (violations policy) =
        (ofObject kind object).map (violations policy)) := by
  refine ⟨fun _ => ofObject_kind, fun _ _ _ => readable_of_ofObject, reread_eq_ofObject, ?_⟩
  intro policy kind object
  rw [reread_eq_ofObject]

theorem ofObject_toJson_of_options :
    ofObject .typeConfig (toJson (.typeConfig { spec :=
        { propagation := .unrecognized "enabled", statusCollection := some .missing } })).toTree =
      .ok (.typeConfig { spec :=
        { propagation := .unrecognized "enabled", statusCollection := some .missing } }) := by
  refine ofObject_toJson.1 (.typeConfig _)
    ⟨{ TypeConfigSpec.readable_blank with propagation := ?_, statusCollection := ?_ },
      TypeConfigStatus.readable_blank⟩
  · exact ⟨"enabled", by decide⟩
  · intro setting same
    cases same
    exact Setting.isReadable_missing

end FederationConfig.Manifest
