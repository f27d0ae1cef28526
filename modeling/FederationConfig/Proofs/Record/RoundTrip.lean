import FederationConfig.Proofs.Record.Codec
import FederationConfig.Proofs.Record.Names

/-!
Records that are written and read back. A record is restored field by field, from the record in
which nothing is given: a field that was written gets its value back, and a field that was not is
left as it was.
-/

namespace FederationConfig

variable {α β : Type}

namespace Field

def Restores (field : Field α) (value before after : α) : Prop :=
  match field.write? value with
  | none => before = after
  | some json => field.read json.toTree before = .ok after

def Keeps (field : Field α) (Readable : α → Prop) : Prop :=
  ∀ tree before after, Readable before → field.read tree before = .ok after → Readable after

section

variable {name : String} {codec : Codec β} {P : β → Prop} {Readable : α → Prop}

theorem ofCodec_restores (lossless : codec.Lossless P) {get : α → β} {set : α → β → α}
    {value : α} (readable : P (get value)) (before : α) :
    (ofCodec name codec get set).Restores value before (set before (get value)) := by
  show (codec.read (codec.write (get value)).toTree).map (set before) = _
  rw [lossless.read_write _ readable]
  rfl

theorem ofCodec_keeps (lossless : codec.Lossless P) {get : α → β} {set : α → β → α}
    (keeps : ∀ record value, Readable record → P value → Readable (set record value)) :
    (ofCodec name codec get set).Keeps Readable := by
  intro tree before after readable read
  obtain ⟨value, given, rfl⟩ := map_eq_ok.mp read
  exact keeps before value readable (lossless.readable_of_read tree value given)

variable {get : α → Option β} {set : α → Option β → α}

theorem read_optional {tree : Tree} (present : tree ≠ .null) (record : α) :
    (optional name codec get set).read tree record =
      (codec.read tree).map fun value => set record (some value) := by
  cases tree with
  | null => exact absurd rfl present
  | _ => rfl

theorem optional_restores (lossless : codec.Lossless P) {value before : α}
    (readable : ∀ part ∈ get value, P part) (unset : set before none = before) :
    (optional name codec get set).Restores value before (set before (get value)) := by
  cases given : get value with
  | none =>
      have unwritten : (optional name codec get set).write? value = none := by
        show (get value).map codec.write = none
        rw [given]
        rfl
      rw [Restores, unwritten, unset]
  | some part =>
      have written : (optional name codec get set).write? value = some (codec.write part) := by
        show (get value).map codec.write = _
        rw [given]
        rfl
      rw [Restores, written]
      dsimp only
      rw [read_optional (lossless.write_ne_null part),
        lossless.read_write part (readable part given)]
      rfl

theorem optional_keeps (lossless : codec.Lossless P)
    (keeps : ∀ record value, Readable record → (∀ part ∈ value, P part) →
      Readable (set record value)) :
    (optional name codec get set).Keeps Readable := by
  intro tree before after readable read
  by_cases absent : tree = .null
  · subst absent
    cases read
    exact keeps before none readable fun _ member => nomatch member
  · rw [read_optional absent] at read
    obtain ⟨part, given, rfl⟩ := map_eq_ok.mp read
    refine keeps before (some part) readable ?_
    intro other same
    cases same
    exact lossless.readable_of_read tree part given

end

end Field

namespace Record

/-- What the fields of a list make of a record, one after the other. -/
inductive Restoration (value : α) : List (Field α) → α → α → Prop
  | nil (record : α) : Restoration value [] record record
  | cons {field : Field α} {fields : List (Field α)} {before between after : α}
      (first : field.Restores value before between)
      (rest : Restoration value fields between after) :
      Restoration value (field :: fields) before after

theorem find?_name {fields : List (Field α)} (distinct : (fields.map Field.name).Nodup)
    {field : Field α} (member : field ∈ fields) :
    (fields.find? fun other => other.name = field.name) = some field := by
  induction fields with
  | nil => cases member
  | cons head tail ih =>
      obtain ⟨fresh, rest⟩ := List.nodup_cons.mp distinct
      rcases List.mem_cons.mp member with rfl | later
      · exact List.find?_cons_of_pos (by simp)
      · have differ : head.name ≠ field.name := fun same =>
          fresh (same ▸ List.mem_map_of_mem later)
        rw [List.find?_cons_of_neg (by simpa using differ)]
        exact ih rest later

theorem readEntry_field {record : Record α} (distinct : record.HasDistinctNames)
    {field : Field α} (member : field ∈ record.fields) (met : List String) (tree : Tree)
    (before : α) :
    record.readEntry (met, before) (.text field.name, tree) =
      if field.name ∈ met then .error (.duplicateField field.name)
      else (field.read tree before).map fun after => (field.name :: met, after) := by
  have found : record.fieldOf? (.text field.name) = .ok (some field) :=
    congrArg Except.ok (find?_name distinct member)
  rw [readEntry, found]
  rfl

theorem readEntry_name {record : Record α} (distinct : record.HasDistinctNames)
    {field : Field α} (member : field ∈ record.fields) {met : List String}
    (fresh : field.name ∉ met) {tree : Tree} {before after : α}
    (read : field.read tree before = .ok after) :
    record.readEntry (met, before) (.text field.name, tree) = .ok (field.name :: met, after) := by
  rw [readEntry_field distinct member, if_neg fresh, read]
  rfl

theorem foldlM_readEntry {record : Record α} (distinct : record.HasDistinctNames) {value : α}
    {fields : List (Field α)} {before after : α} (restored : Restoration value fields before after)
    (located : ∀ field ∈ fields, field ∈ record.fields)
    (nodup : (fields.map Field.name).Nodup) (met : List String)
    (fresh : ∀ field ∈ fields, field.name ∉ met) :
    ∃ names, (Json.toEntries (entries fields value)).foldlM record.readEntry (met, before) =
      .ok (names, after) := by
  -- Induction over the restoration. The names met before it are those of other fields, so that no
  -- field counts as a duplicate.
  induction restored generalizing met with
  | nil current => exact ⟨met, rfl⟩
  | @cons field fields before between after first rest ih =>
      obtain ⟨member, locatedLater⟩ := List.forall_mem_cons.mp located
      obtain ⟨freshName, freshLater⟩ := List.forall_mem_cons.mp fresh
      obtain ⟨unlike, nodupLater⟩ := List.nodup_cons.mp nodup
      have later := ih locatedLater nodupLater
      cases written : field.write? value with
      -- A field that is not written has no entry, and must leave the record as it is.
      | none =>
          have skipped : entries (field :: fields) value = entries fields value := by
            simp [entries, written]
          rw [Field.Restores, written] at first
          rw [skipped, show before = between from first]
          exact later met freshLater
      | some json =>
          have listed : entries (field :: fields) value =
              (field.name, json) :: entries fields value := by
            simp [entries, written]
          rw [Field.Restores, written] at first
          rw [listed, Json.toEntries, List.foldlM_cons,
            readEntry_name distinct member freshName first]
          refine later (field.name :: met) fun other among seen => ?_
          rcases List.mem_cons.mp seen with same | seen
          · exact unlike (same ▸ List.mem_map_of_mem among)
          · exact freshLater other among seen

/-- A record whose readable values are restored, and whose fields give readable values only. -/
structure Restorable (record : Record α) (Readable : α → Prop) : Prop where
  names : record.HasDistinctNames
  restores : ∀ value, Readable value → Restoration value record.fields record.blank value
  blank : Readable record.blank
  keeps : ∀ field ∈ record.fields, field.Keeps Readable

section

variable {record : Record α} {Readable : α → Prop}

theorem Restorable.read_write (restorable : record.Restorable Readable) {value : α}
    (readable : Readable value) : record.read (record.write value).toTree = .ok value := by
  obtain ⟨names, restored⟩ := foldlM_readEntry restorable.names
    (restorable.restores value readable) (fun _ member => member) restorable.names []
    (fun _ _ seen => nomatch seen)
  show ((Json.toEntries (entries record.fields value)).foldlM record.readEntry
    ([], record.blank)).map Prod.snd = _
  rw [restored]
  rfl

theorem fieldOf?_mem {key : Tree} {field : Field α}
    (found : record.fieldOf? key = .ok (some field)) : field ∈ record.fields := by
  cases key with
  | text name =>
      injection found with found
      exact List.mem_of_find?_eq_some found
  | integer position =>
      rw [fieldOf?] at found
      split at found
      · injection found with found
        exact List.mem_of_getElem? found
      · cases found
  | _ => cases found

theorem readable_of_readEntry (keeps : ∀ field ∈ record.fields, field.Keeps Readable)
    {before after : Partial α} {entry : Tree × Tree} (readable : Readable before.2)
    (read : record.readEntry before entry = .ok after) : Readable after.2 := by
  obtain ⟨found, located, read⟩ := bind_eq_ok.mp read
  cases found with
  | none =>
      cases read
      exact readable
  | some field =>
      rw [takeEntry] at read
      split at read
      · cases read
      · obtain ⟨value, given, rfl⟩ := map_eq_ok.mp read
        exact keeps field (fieldOf?_mem located) entry.2 before.2 value readable given

theorem readable_of_takeItems {fields : List (Field α)}
    (keeps : ∀ field ∈ fields, field.Keeps Readable) {items : List Tree} {before after : α}
    (readable : Readable before) (read : takeItems Field.read fields items before = .ok after) :
    Readable after := by
  induction fields generalizing items before with
  | nil =>
      cases read
      exact readable
  | cons field fields ih =>
      obtain ⟨first, later⟩ := List.forall_mem_cons.mp keeps
      cases items with
      | nil =>
          cases read
          exact readable
      | cons tree items =>
          obtain ⟨between, given, rest⟩ := bind_eq_ok.mp read
          exact ih later (first tree before between readable given) rest

theorem Restorable.readable_of_read (restorable : record.Restorable Readable) {tree : Tree}
    {value : α} (read : record.read tree = .ok value) : Readable value := by
  cases tree with
  | map entries =>
      obtain ⟨result, run, rfl⟩ := map_eq_ok.mp read
      exact of_foldlM (P := fun progress : Partial α => Readable progress.2)
        (fun _ _ _ => readable_of_readEntry restorable.keeps) restorable.blank run
  | list items =>
      obtain ⟨result, run, read⟩ := bind_eq_ok.mp read
      split at read
      · cases read
      · cases read
        exact readable_of_takeItems restorable.keeps restorable.blank run
  | _ => cases read

theorem Restorable.lossless (restorable : record.Restorable Readable) :
    record.codec.Lossless Readable where
  read_write _ := restorable.read_write
  readable_of_read _ _ := restorable.readable_of_read
  write_ne_null _ same := nomatch same

end

end Record

end FederationConfig
