import FederationConfig.Proofs.Json.Edit
import FederationConfig.Proofs.Record.RoundTrip

namespace FederationConfig

section Names

variable {names : List String} {items : List Json} {position : Nat} {name : String}

theorem lookup_zip (distinct : names.Nodup) (there : names[position]? = some name)
    (items : List Json) : Json.lookup name (names.zip items) = items[position]? := by
  induction names generalizing items position with
  | nil => cases there
  | cons first names ih =>
      obtain ⟨fresh, distinctLater⟩ := List.nodup_cons.mp distinct
      cases items with
      | nil => rfl
      | cons item items =>
          rw [List.zip_cons_cons, Json.lookup]
          cases position with
          | zero => rw [if_pos (Option.some.inj there), List.getElem?_cons_zero]
          | succ position =>
              rw [List.getElem?_cons_succ] at there
              have differ : first ≠ name := fun same => fresh (same ▸ List.mem_of_getElem? there)
              rw [if_neg differ, ih distinctLater there items, List.getElem?_cons_succ]

theorem zip_set (distinct : names.Nodup) (there : names[position]? = some name)
    (inside : position < items.length) (other : Json) :
    names.zip (items.set position other) = Json.putEntry name other (names.zip items) := by
  induction names generalizing items position with
  | nil => cases there
  | cons first names ih =>
      obtain ⟨fresh, distinctLater⟩ := List.nodup_cons.mp distinct
      cases items with
      | nil => cases inside
      | cons item items =>
          rw [List.zip_cons_cons, Json.putEntry]
          cases position with
          | zero =>
              have same := Option.some.inj there
              rw [if_pos same, List.set_cons_zero, List.zip_cons_cons, same]
          | succ position =>
              rw [List.getElem?_cons_succ] at there
              have differ : first ≠ name := fun same => fresh (same ▸ List.mem_of_getElem? there)
              rw [if_neg differ, List.set_cons_succ, List.zip_cons_cons,
                ih distinctLater there (Nat.lt_of_succ_lt_succ inside)]

end Names

namespace Record

variable {α : Type} {record : Record α}

theorem takeItems_eq (distinct : record.HasDistinctNames) {fields : List (Field α)}
    (located : ∀ field ∈ fields, field ∈ record.fields) (nodup : (fields.map Field.name).Nodup)
    (met : List String) (fresh : ∀ field ∈ fields, field.name ∉ met) (items : List Json)
    (before : α) :
    takeItems Field.read fields (Json.toTrees items) before =
      ((Json.toEntries ((fields.map Field.name).zip items)).foldlM record.readEntry
        (met, before)).map Prod.snd := by
  -- Induction over the fields, each of which takes an item. None of the names met before is one of
  -- theirs, so that no field counts as a duplicate.
  induction fields generalizing items met before with
  | nil => cases items <;> rfl
  | cons field fields ih =>
      obtain ⟨member, locatedLater⟩ := List.forall_mem_cons.mp located
      obtain ⟨freshName, freshLater⟩ := List.forall_mem_cons.mp fresh
      obtain ⟨unlike, nodupLater⟩ := List.nodup_cons.mp nodup
      cases items with
      | nil => rfl
      | cons item items =>
          rw [List.map_cons, List.zip_cons_cons, Json.toEntries, List.foldlM_cons,
            readEntry_field distinct member, if_neg freshName, Json.toTrees, takeItems]
          cases field.read item.toTree before with
          | error fault => rfl
          | ok after =>
              refine ih locatedLater nodupLater _ (fun other among seen => ?_) items after
              rcases List.mem_cons.mp seen with same | seen
              · exact unlike (same ▸ List.mem_map_of_mem among)
              · exact freshLater other among seen

theorem read_list_iff (distinct : record.HasDistinctNames) {items : List Json} {value : α} :
    record.read (Json.list items).toTree = .ok value ↔
      items.length ≤ record.fields.length ∧
        record.read (Json.object ((record.fields.map Field.name).zip items)).toTree =
          .ok value := by
  have same := takeItems_eq distinct (fun _ member => member) distinct []
    (fun _ _ seen => nomatch seen) items record.blank
  have trees : (Json.toTrees items).length = items.length := by
    rw [Json.toTrees_eq_map, List.length_map]
  show record.readList (Json.toTrees items) = _ ↔ _ ∧ record.readMap _ = _
  rw [readList, readMap, ← same, trees, bind_eq_ok]
  constructor
  · rintro ⟨result, run, given⟩
    split at given
    · cases given
    · case isFalse few =>
        cases given
        exact ⟨Nat.not_lt.mp few, run⟩
  · rintro ⟨few, run⟩
    refine ⟨value, run, ?_⟩
    rw [if_neg (Nat.not_lt.mpr few)]
    rfl

end Record

end FederationConfig
