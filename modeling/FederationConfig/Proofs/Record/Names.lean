import FederationConfig.OperatorConfig.Record
import FederationConfig.TypeConfig.Record
import FederationConfig.Proofs.Json.Edit

namespace FederationConfig

namespace Record

variable {α : Type}

def HasDistinctNames (record : Record α) : Prop := (record.fields.map Field.name).Nodup

def entries (fields : List (Field α)) (value : α) : List (String × Json) :=
  fields.filterMap fun field => (field.write? value).map fun written => (field.name, written)

theorem lookup_entries_eq_none (fields : List (Field α)) (value : α) (name : String)
    (absent : name ∉ fields.map Field.name) : Json.lookup name (entries fields value) = none := by
  induction fields with
  | nil => rfl
  | cons head tail ih =>
      rw [List.map_cons, List.mem_cons, not_or] at absent
      have later := ih absent.2
      cases written : head.write? value with
      | none => simpa [entries, written] using later
      | some json => simpa [entries, written, Json.lookup, Ne.symm absent.1] using later

theorem lookup_entries (fields : List (Field α)) (distinct : (fields.map Field.name).Nodup)
    (value : α) (field : Field α) (member : field ∈ fields) :
    Json.lookup field.name (entries fields value) = field.write? value := by
  induction fields with
  | nil => cases member
  | cons head tail ih =>
      obtain ⟨fresh, rest⟩ := List.nodup_cons.mp distinct
      rcases List.mem_cons.mp member with rfl | later
      · have absent := lookup_entries_eq_none tail value field.name fresh
        cases written : field.write? value with
        | none => simpa [entries, written] using absent
        | some json => simp [entries, written, Json.lookup]
      · have found := ih rest later
        have differ : head.name ≠ field.name := fun same =>
          fresh (same ▸ List.mem_map_of_mem later)
        cases written : head.write? value with
        | none => simpa [entries, written] using found
        | some json => simpa [entries, written, Json.lookup, differ] using found

theorem child?_write (record : Record α) (distinct : record.HasDistinctNames) (value : α)
    (field : Field α) (member : field ∈ record.fields) :
    (record.write value).child? (.key field.name) = field.write? value :=
  lookup_entries record.fields distinct value field member

theorem readEntry_unknown {record : Record α} {name : String}
    (unknown : name ∉ record.fields.map Field.name) (progress : Partial α) (tree : Tree) :
    record.readEntry progress (.text name, tree) = .ok progress := by
  have absent : record.fields.find? (fun field => field.name = name) = none := by
    rw [List.find?_eq_none]
    intro field member same
    exact unknown (of_decide_eq_true same ▸ List.mem_map_of_mem member)
  have found : record.fieldOf? (.text name) = .ok none := congrArg Except.ok absent
  rw [readEntry, found]
  rfl

/-- An entry of an unknown name makes no difference, wherever it stands. -/
theorem read_unknown {record : Record α} {name : String}
    (unknown : name ∉ record.fields.map Field.name) (front back : List (String × Json))
    (value : Json) :
    record.read (Json.object (front ++ (name, value) :: back)).toTree =
      record.read (Json.object (front ++ back)).toTree := by
  show record.readMap (Json.toEntries _) = record.readMap (Json.toEntries _)
  rw [readMap, readMap, Json.toEntries_eq_map, Json.toEntries_eq_map, List.map_append,
    List.map_append, List.foldlM_append, List.foldlM_append, List.map_cons]
  congr 2
  funext progress
  rw [List.foldlM_cons, readEntry_unknown unknown]
  rfl

end Record

theorem Metadata.record_names : Metadata.record.HasDistinctNames := by
  simp [Record.HasDistinctNames, Metadata.record, Field.ofCodec, Field.optional]

theorem ResourceType.record_names : ResourceType.record.HasDistinctNames := by
  simp [Record.HasDistinctNames, ResourceType.record, Field.ofCodec]

theorem TypeConfigSpec.record_names : TypeConfigSpec.record.HasDistinctNames := by
  simp [Record.HasDistinctNames, TypeConfigSpec.record, Field.ofCodec, Field.optional]

theorem TypeConfigStatus.record_names : TypeConfigStatus.record.HasDistinctNames := by
  simp [Record.HasDistinctNames, TypeConfigStatus.record, Field.ofCodec, Field.optional]

theorem TypeConfig.record_names : TypeConfig.record.HasDistinctNames := by
  simp [Record.HasDistinctNames, TypeConfig.record, Field.ofCodec]

theorem ClusterDelays.record_names : ClusterDelays.record.HasDistinctNames := by
  simp [Record.HasDistinctNames, ClusterDelays.record, Field.ofCodec]

theorem LeaderElection.record_names : LeaderElection.record.HasDistinctNames := by
  simp [Record.HasDistinctNames, LeaderElection.record, Field.ofCodec]

theorem FeatureGate.record_names : FeatureGate.record.HasDistinctNames := by
  simp [Record.HasDistinctNames, FeatureGate.record, Field.ofCodec]

theorem HealthCheck.record_names : HealthCheck.record.HasDistinctNames := by
  simp [Record.HasDistinctNames, HealthCheck.record, Field.ofCodec]

theorem SyncPolicy.record_names : SyncPolicy.record.HasDistinctNames := by
  simp [Record.HasDistinctNames, SyncPolicy.record, Field.ofCodec]

theorem OperatorSpec.record_names : OperatorSpec.record.HasDistinctNames := by
  simp [Record.HasDistinctNames, OperatorSpec.record, Field.ofCodec]

theorem OperatorConfig.record_names : OperatorConfig.record.HasDistinctNames := by
  simp [Record.HasDistinctNames, OperatorConfig.record, Field.ofCodec]

end FederationConfig
