import FederationConfig.Proofs.Record.Layout
import Mathlib.Data.List.Perm.Basic
import Mathlib.Logic.Relation

/-!
Documents that say the same. The keys of an object may be reordered, and a record may be given keys
that it does not declare; whatever was read is read as before.
-/

namespace FederationConfig

/-- What is declared of a value: the fields of a record, the items of a list, or nothing. -/
inductive Schema where
  | scalar
  | record (fields : List (String × Schema))
  | list (item : Schema)

namespace Schema

def part : Schema → Json.Step → Schema
  | record fields, .key name => (fields.lookup name).getD scalar
  | record fields, .item position => (fields[position]?.map Prod.snd).getD scalar
  | list item, .item _ => item
  | _, _ => scalar

/-- One step from a document to another that says the same: some object, at whatever depth, has its
keys in another order, or it is the object of a record and has a further key that the record does
not declare. -/
inductive Restates : Schema → Json → Json → Prop where
  | reorder {schema : Schema} {entries others : List (String × Json)}
      (perm : entries.Perm others) : Restates schema (.object entries) (.object others)
  | extend {fields : List (String × Schema)} {front back : List (String × Json)} {name : String}
      (value : Json) (undeclared : name ∉ fields.map Prod.fst) :
      Restates (.record fields) (.object (front ++ back)) (.object (front ++ (name, value) :: back))
  | entry {schema : Schema} {front back : List (String × Json)} {name : String} {old new : Json}
      (inside : Restates (schema.part (.key name)) old new) :
      Restates schema (.object (front ++ (name, old) :: back))
        (.object (front ++ (name, new) :: back))
  | item {schema : Schema} {front back : List Json} {old new : Json}
      (inside : Restates (schema.part (.item front.length)) old new) :
      Restates schema (.list (front ++ old :: back)) (.list (front ++ new :: back))

variable {α : Type} {schema : Schema}

/-- A step makes no difference to what is read. -/
def Suits (schema : Schema) (read : Tree → Except DecodeFault α) : Prop :=
  ∀ json other, schema.Restates json other →
    ∀ value, read json.toTree = .ok value ↔ read other.toTree = .ok value

theorem Suits.run {read : Tree → Except DecodeFault α} (suits : schema.Suits read)
    {json other : Json} (steps : Relation.ReflTransGen schema.Restates json other) (value : α) :
    read json.toTree = .ok value ↔ read other.toTree = .ok value := by
  induction steps with
  | refl => exact Iff.rfl
  | tail _ step ih => exact ih.trans (suits _ _ step value)

theorem suits_scalar (schema : Schema) {read : Tree → Except DecodeFault α}
    (noObject : ∀ entries value, read (.map entries) ≠ .ok value)
    (noList : ∀ items value, read (.list items) ≠ .ok value) : schema.Suits read := by
  intro json other step value
  cases step with
  | reorder => exact iff_of_false (noObject _ value) (noObject _ value)
  | extend => exact iff_of_false (noObject _ value) (noObject _ value)
  | entry => exact iff_of_false (noObject _ value) (noObject _ value)
  | item => exact iff_of_false (noList _ value) (noList _ value)

section Codec

variable (schema : Schema)

theorem suits_text : schema.Suits Codec.text.read :=
  schema.suits_scalar (fun _ _ given => nomatch given) fun _ _ given => nomatch given

theorem suits_int64 : schema.Suits Codec.int64.read :=
  schema.suits_scalar (fun _ _ given => nomatch given) fun _ _ given => nomatch given

theorem suits_duration : schema.Suits Codec.duration.read :=
  schema.suits_scalar (fun _ _ given => nomatch given) fun _ _ given => nomatch given

theorem suits_setting [Choice α] : schema.Suits (Codec.setting (α := α)).read :=
  schema.suits_scalar (fun _ _ given => nomatch given) fun _ _ given => nomatch given

end Codec

theorem Restates.ne_null {json other : Json} (step : schema.Restates json other) :
    json ≠ .null ∧ other ≠ .null := by
  cases step <;> exact ⟨Json.noConfusion, Json.noConfusion⟩

theorem Suits.optional {read : Tree → Except DecodeFault α} (suits : schema.Suits read) :
    schema.Suits (Shape.readOptional read) := by
  intro json other step value
  obtain ⟨given, givenToo⟩ := step.ne_null
  rw [Shape.readOptional_of_ne_null (Json.toTree_eq_null.not.mpr given),
    Shape.readOptional_of_ne_null (Json.toTree_eq_null.not.mpr givenToo), map_eq_ok, map_eq_ok]
  simp only [suits json other step]

theorem Suits.list {read : Tree → Except DecodeFault α} (suits : schema.Suits read) :
    (Schema.list schema).Suits (Shape.readList read) := by
  intro json other step value
  cases step with
  | reorder => exact iff_of_false (fun given => nomatch given) fun given => nomatch given
  | entry => exact iff_of_false (fun given => nomatch given) fun given => nomatch given
  | @item _ front back old new inside =>
      show (Json.toTrees _).mapM read = _ ↔ (Json.toTrees _).mapM read = _
      simp only [Json.toTrees_eq_map, List.map_append, List.map_cons]
      exact mapM_congr_item (suits old new inside) _ _ value

def Declares (fields : List (String × Schema)) (slots : List (Slot α)) : Prop :=
  List.Forall₂ (fun field slot => field.1 = slot.name ∧ field.2.Suits slot.shape.read) fields slots

section Record

variable {record : Record α} {fields : List (String × Schema)} {name : String}

theorem part_key (distinct : (fields.map Prod.fst).Nodup) (member : (name, schema) ∈ fields) :
    (Schema.record fields).part (.key name) = schema := by
  show (fields.lookup name).getD scalar = schema
  induction fields with
  | nil => cases member
  | cons field fields ih =>
      obtain ⟨fresh, later⟩ := List.nodup_cons.mp distinct
      rcases List.mem_cons.mp member with rfl | member
      · rw [List.lookup_cons_self]
        rfl
      · have differ : name ≠ field.1 := fun same =>
          fresh (List.mem_map.mpr ⟨(name, schema), member, same⟩)
        rw [List.lookup_cons, beq_eq_false_iff_ne.mpr differ]
        exact ih later member

theorem part_key_getElem (distinct : (fields.map Prod.fst).Nodup) {position : Nat}
    (inside : position < fields.length) :
    (Schema.record fields).part (.key fields[position].1) = fields[position].2 :=
  part_key distinct (List.getElem_mem inside)

theorem part_item_getElem {position : Nat} (inside : position < fields.length) :
    (Schema.record fields).part (.item position) = fields[position].2 := by
  rw [part, List.getElem?_eq_getElem inside]
  rfl

variable {layout : record.Layout}

theorem Declares.names (declares : Declares fields layout.slots) :
    fields.map Prod.fst = record.fields.map Field.name := by
  rw [← layout.map_name, ← List.forall₂_eq_eq_eq, List.forall₂_map_left_iff,
    List.forall₂_map_right_iff]
  exact declares.imp fun _ _ declared => declared.1

theorem Declares.distinct (declares : Declares fields layout.slots) :
    (fields.map Prod.fst).Nodup :=
  declares.names ▸ layout.names

theorem Declares.suits_part (declares : Declares fields layout.slots) {slot : Slot α}
    (member : slot ∈ layout.slots) :
    ((Schema.record fields).part (.key slot.name)).Suits slot.shape.read := by
  obtain ⟨position, inside, rfl⟩ := List.getElem_of_mem member
  have insideToo : position < fields.length := declares.length_eq ▸ inside
  obtain ⟨named, suits⟩ : fields[position].1 = layout.slots[position].name ∧
      fields[position].2.Suits layout.slots[position].shape.read :=
    declares.get insideToo inside
  rw [← named, part_key_getElem declares.distinct insideToo]
  exact suits

theorem Declares.read_entry (declares : Declares fields layout.slots)
    {front back : List (String × Json)} {old new : Json}
    (inside : ((Schema.record fields).part (.key name)).Restates old new) (value : α) :
    record.read (Json.object (front ++ (name, old) :: back)).toTree = .ok value ↔
      record.read (Json.object (front ++ (name, new) :: back)).toTree = .ok value := by
  rw [layout.read_object_iff, layout.read_object_iff]
  refine forall₂_congr fun slot member => ?_
  have keys : (front ++ (name, old) :: back).map Prod.fst =
      (front ++ (name, new) :: back).map Prod.fst := by
    rw [List.map_append, List.map_append, List.map_cons, List.map_cons]
  rw [Slot.Taken, Slot.Taken, keys, Json.lookup_append, Json.lookup_append]
  refine and_congr_right fun _ => ?_
  cases Json.lookup slot.name front with
  | some first => exact Iff.rfl
  | none =>
      rw [Option.none_or, Option.none_or, Json.lookup, Json.lookup]
      by_cases here : name = slot.name
      · subst here
        rw [if_pos rfl, if_pos rfl]
        exact declares.suits_part member old new inside _
      · rw [if_neg here, if_neg here]

theorem Declares.read_item (declares : Declares fields layout.slots) {front back : List Json}
    {old new : Json} (inside : ((Schema.record fields).part (.item front.length)).Restates old new)
    (value : α) :
    record.read (Json.list (front ++ old :: back)).toTree = .ok value ↔
      record.read (Json.list (front ++ new :: back)).toTree = .ok value := by
  have length : (front ++ old :: back).length = (front ++ new :: back).length := by
    rw [List.length_append, List.length_append, List.length_cons, List.length_cons]
  rw [Record.read_list_iff layout.names, Record.read_list_iff layout.names, ← length]
  refine and_congr_right fun few => ?_
  have position : front.length < fields.length := by
    have same := congrArg List.length declares.names
    rw [List.length_map, List.length_map] at same
    rw [same]
    rw [List.length_append, List.length_cons] at few
    omega
  rw [part_item_getElem position, ← part_key_getElem declares.distinct position] at inside
  have zipped (json : Json) :
      (record.fields.map Field.name).zip (front ++ json :: back) =
        ((fields.map Prod.fst).take front.length).zip front ++
          (fields[front.length].1, json) ::
            ((fields.map Prod.fst).drop (front.length + 1)).zip back := by
    have taken : ((fields.map Prod.fst).take front.length).length = front.length := by
      rw [List.length_take, List.length_map]
      omega
    have split := List.take_append_drop front.length (fields.map Prod.fst)
    rw [List.drop_eq_getElem_cons (by rwa [List.length_map]), List.getElem_map] at split
    rw [← declares.names]
    conv => lhs; rw [← split]
    rw [List.zip_append taken, List.zip_cons_cons]
  rw [zipped, zipped]
  exact declares.read_entry inside value

theorem Declares.suits (layout : record.Layout) (declares : Declares fields layout.slots) :
    (Schema.record fields).Suits record.read := by
  intro json other step value
  cases step with
  | reorder perm => exact layout.read_perm perm value
  | extend new undeclared => rw [Record.read_unknown (declares.names ▸ undeclared)]
  | entry inside => exact declares.read_entry inside value
  | item inside => exact declares.read_item inside value

end Record

end Schema

end FederationConfig
