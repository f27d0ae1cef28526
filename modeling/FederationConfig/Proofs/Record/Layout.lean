import FederationConfig.Proofs.Record.Known
import FederationConfig.Proofs.Record.Positional
import Mathlib.Data.List.Nodup
import Mathlib.Data.List.Pairwise

/-!
Records as their parts. Each part is read from the entry that has its name, wherever the entry
stands and whatever else there is, and can be changed on its own.
-/

namespace FederationConfig

variable {α β : Type}

structure Slot (α : Type) where
  Part : Type
  name : String
  shape : Shape Part
  get : α → Part
  set : α → Part → α
  get_set : ∀ value part, get (set value part) = part

namespace Slot

@[simp]
def of (name : String) (shape : Shape β) (get : α → β) (set : α → β → α)
    (get_set : ∀ value part, get (set value part) = part) : Slot α where
  Part := β
  name := name
  shape := shape
  get := get
  set := set
  get_set := get_set

structure Reads (slot : Slot α) (field : Field α) : Prop where
  name : slot.name = field.name
  read : ∀ tree value, field.read tree value = (slot.shape.read tree).map (slot.set value)

/-- Two parts of which each can be changed without the other. -/
def Apart (slot other : Slot α) : Prop :=
  (∀ value part, slot.get (other.set value part) = slot.get value) ∧
    ∀ value part, other.get (slot.set value part) = other.get value

instance : Std.Symm (@Apart α) where
  symm _ _ apart := apart.symm

def modify (slot : Slot α) (change : slot.Part → slot.Part) (value : α) : α :=
  slot.set value (change (slot.get value))

def own (slot : Slot α) (blank : α) : KnownField α where
  path := [.key slot.name]
  path_ne_nil := List.cons_ne_nil _ _
  omitted value := slot.set value (slot.get blank)
  chosen? := slot.shape.choose?.map fun choose text value => slot.set value (choose text)

/-- What the part of a record is that was read: what its entry says, or else what it was before. -/
def Given (slot : Slot α) (before : α) (entry : Option Json) (after : α) : Prop :=
  match entry with
  | none => slot.get after = slot.get before
  | some json => slot.shape.read json.toTree = .ok (slot.get after)

/-- Entries that give the part once, or not at all if it was met before. -/
def Taken (slot : Slot α) (met : List String) (before : α) (entries : List (String × Json))
    (after : α) : Prop :=
  (entries.map Prod.fst).count slot.name ≤ (if slot.name ∈ met then 0 else 1) ∧
    slot.Given before (Json.lookup slot.name entries) after

section Taken

variable {slot : Slot α} {met : List String} {before after : α} {json : Json}
  {entries : List (String × Json)}

theorem not_taken_of_met (seen : slot.name ∈ met) :
    ¬ slot.Taken met before ((slot.name, json) :: entries) after := by
  rintro ⟨few, -⟩
  rw [if_pos seen, List.map_cons, List.count_cons_self] at few
  exact Nat.not_succ_le_zero _ few

theorem taken_cons_self (fresh : slot.name ∉ met) :
    slot.Taken met before ((slot.name, json) :: entries) after ↔
      (entries.map Prod.fst).count slot.name = 0 ∧
        slot.shape.read json.toTree = .ok (slot.get after) := by
  rw [Taken, if_neg fresh, List.map_cons, List.count_cons_self, Nat.succ_le_succ_iff,
    Nat.le_zero, Json.lookup, if_pos rfl, Given]

theorem taken_of_met (seen : slot.name ∈ met) :
    slot.Taken met before entries after ↔
      (entries.map Prod.fst).count slot.name = 0 ∧ slot.get after = slot.get before := by
  rw [Taken, if_pos seen, Nat.le_zero]
  refine and_congr_right fun none => ?_
  rw [Json.lookup_eq_none_iff.mpr none, Given]

theorem taken_cons_other {key : String} (differ : slot.name ≠ key) :
    slot.Taken met before ((key, json) :: entries) after ↔
      slot.Taken met before entries after := by
  rw [Taken, Taken, List.map_cons, List.count_cons_of_ne differ.symm, Json.lookup,
    if_neg differ.symm]

theorem taken_cons_met {key : String} (differ : slot.name ≠ key) {before' : α}
    (same : slot.get before' = slot.get before) :
    slot.Taken (key :: met) before' entries after ↔ slot.Taken met before entries after := by
  simp only [Taken, List.mem_cons, differ, false_or]
  refine and_congr_right fun _ => ?_
  cases Json.lookup slot.name entries with
  | none => rw [Given, Given, same]
  | some json => exact Iff.rfl

end Taken

section Reads

variable {name : String} {codec : Codec β} {shape : Shape β}

theorem reads_ofCodec {get : α → β} {set : α → β → α}
    {get_set : ∀ value part, get (set value part) = part}
    (read : ∀ tree, codec.read tree = shape.read tree) :
    (of name shape get set get_set).Reads (.ofCodec name codec get set) where
  name := rfl
  read tree value := congrArg (Except.map (set value)) (read tree)

theorem reads_optional {get : α → Option β} {set : α → Option β → α}
    {get_set : ∀ value part, get (set value part) = part}
    (read : ∀ tree, codec.read tree = shape.read tree) :
    (of name (.optional shape) get set get_set).Reads (.optional name codec get set) where
  name := rfl
  read tree value := by
    by_cases absent : tree = .null
    · rw [absent]
      rfl
    · show (Field.optional name codec get set).read tree value =
        (Shape.readOptional shape.read tree).map (set value)
      rw [Field.read_optional absent, Shape.readOptional_of_ne_null absent, read]
      cases shape.read tree <;> rfl

end Reads

end Slot

/-- The parts of a record, one for each of its fields: apart from each other, and together all that
there is of the record. -/
structure Record.Layout (record : Record α) where
  slots : List (Slot α)
  reads : List.Forall₂ Slot.Reads slots record.fields
  apart : slots.Pairwise Slot.Apart := by simp [Slot.Apart]
  ext : ∀ a b, (∀ slot ∈ slots, slot.get a = slot.get b) → a = b := by
    rintro ⟨⟩ ⟨⟩ same
    simpa using same
  names : record.HasDistinctNames

namespace Record.Layout

variable {record : Record α} (layout : record.Layout) {slot other : Slot α}

include layout

theorem map_name : layout.slots.map Slot.name = record.fields.map Field.name := by
  rw [← List.forall₂_eq_eq_eq, List.forall₂_map_left_iff, List.forall₂_map_right_iff]
  exact layout.reads.imp fun _ _ reads => reads.name

theorem exists_reads (member : slot ∈ layout.slots) :
    ∃ field ∈ record.fields, slot.Reads field := by
  obtain ⟨position, inside, rfl⟩ := List.getElem_of_mem member
  have insideToo := layout.reads.length_eq ▸ inside
  exact ⟨_, List.getElem_mem insideToo, layout.reads.get inside insideToo⟩

theorem eq_of_name (member : slot ∈ layout.slots) (memberToo : other ∈ layout.slots)
    (same : slot.name = other.name) : slot = other := by
  have distinct : (layout.slots.map Slot.name).Nodup := layout.map_name ▸ layout.names
  exact List.inj_on_of_nodup_map distinct member memberToo same

theorem get_set_other (member : slot ∈ layout.slots) (memberToo : other ∈ layout.slots)
    (differ : slot.name ≠ other.name) (value : α) (part : other.Part) :
    slot.get (other.set value part) = slot.get value := by
  have apart := layout.apart.forall member memberToo fun same => differ (congrArg Slot.name same)
  exact apart.1 value part

theorem readEntry_slot (member : slot ∈ layout.slots) (met : List String) (tree : Tree)
    (before : α) :
    record.readEntry (met, before) (.text slot.name, tree) =
      if slot.name ∈ met then .error (.duplicateField slot.name)
      else (slot.shape.read tree).map fun part => (slot.name :: met, slot.set before part) := by
  obtain ⟨field, there, reads⟩ := layout.exists_reads member
  rw [reads.name, readEntry_field layout.names there, reads.read, ← reads.name]
  cases slot.shape.read tree <;> rfl

theorem unknown_iff {key : String} :
    key ∉ record.fields.map Field.name ↔ ∀ slot ∈ layout.slots, slot.name ≠ key := by
  rw [← layout.map_name, List.mem_map]
  push Not
  rfl

theorem foldlM_readEntry_iff {entries : List (String × Json)} {met : List String}
    {before after : α} :
    (∃ names, (Json.toEntries entries).foldlM record.readEntry (met, before) =
        .ok (names, after)) ↔
      ∀ slot ∈ layout.slots, slot.Taken met before entries after := by
  -- Induction over the entries. An entry of a part changes that part only, and its name then counts
  -- as met for the rest.
  induction entries generalizing met before with
  | nil =>
      constructor
      · rintro ⟨names, run⟩
        cases run
        exact fun slot _ => ⟨Nat.zero_le _, rfl⟩
      · intro taken
        have same := layout.ext after before fun slot member => (taken slot member).2
        exact ⟨met, congrArg (fun value => Except.ok (met, value)) same.symm⟩
  | cons entry entries ih =>
      obtain ⟨key, json⟩ := entry
      simp only [Json.toEntries, List.foldlM_cons, bind_eq_ok]
      by_cases known : ∃ slot ∈ layout.slots, slot.name = key
      · obtain ⟨slot, member, rfl⟩ := known
        rw [layout.readEntry_slot member]
        by_cases seen : slot.name ∈ met
        · refine iff_of_false ?_ fun taken => Slot.not_taken_of_met seen (taken slot member)
          rintro ⟨names, progress, failed, -⟩
          rw [if_pos seen] at failed
          cases failed
        rw [if_neg seen]
        cases outcome : slot.shape.read json.toTree with
        | error fault =>
            refine iff_of_false ?_ fun taken => ?_
            · rintro ⟨names, progress, failed, -⟩
              cases failed
            · have given := ((Slot.taken_cons_self seen).mp (taken slot member)).2
              rw [outcome] at given
              cases given
        | ok part =>
            have next : Except.map (fun part => (slot.name :: met, slot.set before part))
                (.ok part : Except DecodeFault slot.Part) =
                .ok (slot.name :: met, slot.set before part) := rfl
            simp only [next, Except.ok.injEq, exists_eq_left', ih]
            refine forall₂_congr fun other there => ?_
            by_cases same : other.name = slot.name
            · obtain rfl := layout.eq_of_name there member same
              rw [Slot.taken_of_met List.mem_cons_self, Slot.taken_cons_self seen, outcome,
                other.get_set, Except.ok.injEq, eq_comm (a := part)]
            · rw [Slot.taken_cons_met same (layout.get_set_other there member same before part),
                Slot.taken_cons_other same]
      · have unknown : ∀ slot ∈ layout.slots, slot.name ≠ key :=
          fun slot member same => known ⟨slot, member, same⟩
        simp only [readEntry_unknown (layout.unknown_iff.mpr unknown), Except.ok.injEq,
          exists_eq_left', ih]
        exact forall₂_congr fun slot member => (Slot.taken_cons_other (unknown slot member)).symm

/-- A record is read from an object part by part. -/
theorem read_object_iff {entries : List (String × Json)} {value : α} :
    record.read (Json.object entries).toTree = .ok value ↔
      ∀ slot ∈ layout.slots, slot.Taken [] record.blank entries value := by
  rw [← layout.foldlM_readEntry_iff]
  show ((Json.toEntries entries).foldlM record.readEntry ([], record.blank)).map Prod.snd = _ ↔ _
  rw [map_eq_ok]
  constructor
  · rintro ⟨⟨names, result⟩, given, rfl⟩
    exact ⟨names, given⟩
  · rintro ⟨names, given⟩
    exact ⟨(names, value), given, rfl⟩

theorem read_perm {entries others : List (String × Json)} (perm : entries.Perm others)
    (value : α) :
    record.read (Json.object entries).toTree = .ok value ↔
      record.read (Json.object others).toTree = .ok value := by
  rw [layout.read_object_iff, layout.read_object_iff]
  refine forall₂_congr fun slot _ => ?_
  have count := (perm.map Prod.fst).count_eq slot.name
  rw [Slot.Taken, Slot.Taken, ← count]
  refine and_congr_right fun single => ?_
  rw [Json.lookup_perm perm single]

theorem read_part {entries : List (String × Json)} {value : α} (member : slot ∈ layout.slots)
    (read : record.read (Json.object entries).toTree = .ok value) {child : Json}
    (found : Json.lookup slot.name entries = some child) :
    slot.shape.read child.toTree = .ok (slot.get value) := by
  have given := (layout.read_object_iff.mp read slot member).2
  rwa [found] at given

theorem read_of_unchanged {entries changed : List (String × Json)} {value : α}
    (member : slot ∈ layout.slots)
    (read : record.read (Json.object entries).toTree = .ok value)
    (keys : ∀ name, (changed.map Prod.fst).count name ≤ (entries.map Prod.fst).count name)
    (unchanged : ∀ name, name ≠ slot.name →
      Json.lookup name changed = Json.lookup name entries)
    {part : slot.Part}
    (given : slot.Given record.blank (Json.lookup slot.name changed) (slot.set value part)) :
    record.read (Json.object changed).toTree = .ok (slot.set value part) := by
  have each := layout.read_object_iff.mp read
  refine layout.read_object_iff.mpr fun other there => ?_
  refine ⟨(keys other.name).trans (each other there).1, ?_⟩
  by_cases same : other.name = slot.name
  · obtain rfl := layout.eq_of_name there member same
    exact given
  · have before := (each other there).2
    have apart := layout.get_set_other there member same value part
    rw [unchanged other.name same]
    cases found : Json.lookup other.name entries with
    | none =>
        rw [found] at before
        exact apart.trans before
    | some child =>
        rw [found] at before
        exact before.trans (congrArg Except.ok apart.symm)

theorem read_putEntry {entries : List (String × Json)} {value : α} (member : slot ∈ layout.slots)
    (read : record.read (Json.object entries).toTree = .ok value) {old other : Json}
    (found : Json.lookup slot.name entries = some old) {part : slot.Part}
    (image : slot.shape.read other.toTree = .ok part) :
    record.read (Json.object (Json.putEntry slot.name other entries)).toTree =
      .ok (slot.set value part) := by
  refine layout.read_of_unchanged member read (fun name => ?_) (fun name differ => ?_) ?_
  · rw [Json.keys_putEntry found]
  · rw [Json.lookup_putEntry, if_neg differ.symm]
  · rw [Json.lookup_putEntry, if_pos rfl, Slot.Given, slot.get_set]
    exact image

theorem read_eraseEntry {entries : List (String × Json)} {value : α}
    (member : slot ∈ layout.slots)
    (read : record.read (Json.object entries).toTree = .ok value) :
    record.read (Json.object (entries.filter fun (key, _) => key ≠ slot.name)).toTree =
      .ok (slot.set value (slot.get record.blank)) := by
  refine layout.read_of_unchanged member read
    (fun name => Json.count_keys_eraseEntry_le _ _ _) (fun name differ => ?_) ?_
  · rw [Json.lookup_eraseEntry, if_neg differ.symm]
  · rw [Json.lookup_eraseEntry, if_pos rfl]
    exact slot.get_set value _

inductive At : Json.Step → Slot α → Prop
  | key {slot : Slot α} (member : slot ∈ layout.slots) : At (.key slot.name) slot
  | item {slot : Slot α} {position : Nat} (there : layout.slots[position]? = some slot) :
      At (.item position) slot

theorem focus_slot {step : Json.Step} (there : layout.At step slot) :
    KnownField.Focus record.read step slot.shape.read slot.modify := by
  intro json child value read found
  cases there with
  | key member =>
      cases json with
      | object entries =>
          refine ⟨slot.get value, layout.read_part member read found, fun other change image => ?_⟩
          exact layout.read_putEntry member read found image
      | _ => cases found
  | @item _ position there =>
      cases json with
      | list items =>
          have member := List.mem_of_getElem? there
          have inside := (List.getElem?_eq_some_iff.mp found).1
          have named : (record.fields.map Field.name)[position]? = some slot.name := by
            rw [← layout.map_name, List.getElem?_map, there, Option.map_some]
          obtain ⟨few, readToo⟩ := (read_list_iff layout.names).mp read
          have foundToo := (lookup_zip layout.names named items).trans found
          refine ⟨slot.get value, layout.read_part member readToo foundToo,
            fun other change image => ?_⟩
          have replaced := layout.read_putEntry member readToo foundToo image
          rw [← zip_set layout.names named inside] at replaced
          rw [Json.putChild, Json.putItem, if_pos inside]
          exact (read_list_iff layout.names).mpr ⟨by rwa [List.length_set], replaced⟩
      | _ => cases found

theorem tolerated_own (member : slot ∈ layout.slots) :
    (slot.own record.blank).Tolerated record.read := by
  intro json value read present
  cases json with
  | object entries =>
      cases found : Json.lookup slot.name entries with
      | none =>
          refine absurd ?_ present
          show (Json.lookup slot.name entries).bind (Json.at? · []) = none
          rw [found, Option.bind_none]
      | some child =>
          refine ⟨layout.read_eraseEntry member read, ?_⟩
          intro chosen given text
          obtain ⟨choose, known, rfl⟩ := Option.map_eq_some_iff.mp given
          exact layout.read_putEntry member read found (slot.shape.read_orNull choose known text)
  | _ => exact absurd rfl present

/-- The fields that are known of a record: all of its parts, each under its name, and what is known
of the parts, in a record that is given by names or by positions. -/
inductive Known : KnownField α → Prop
  | own {slot : Slot α} (member : slot ∈ layout.slots) : Known (slot.own record.blank)
  | within {step : Json.Step} {slot : Slot α} {field : KnownField slot.Part}
      (there : layout.At step slot) (known : slot.shape.Knows field) :
      Known (field.within step slot.modify)

theorem tolerates {field : KnownField α} (known : layout.Known field) :
    field.Tolerated record.read := by
  cases known with
  | own member => exact layout.tolerated_own member
  | @within _ slot part there known =>
      exact (slot.shape.tolerates part known).within (layout.focus_slot there)

theorem read_amended {json : Json} {value : α} (read : record.read json.toTree = .ok value)
    {field : KnownField α} (known : layout.Known field) (present : json.at? field.path ≠ none) :
    record.read (json.erase field.path).toTree = .ok (field.omitted value) ∧
      ∀ chosen ∈ field.chosen?,
        (∀ text, record.read (json.put field.path (.text text)).toTree =
          .ok (chosen (some text) value)) ∧
        record.read (json.put field.path .null).toTree = .ok (chosen none value) := by
  obtain ⟨erased, put⟩ := layout.tolerates known json value read present
  exact ⟨erased, fun chosen given =>
    ⟨fun text => put chosen given (some text), put chosen given none⟩⟩

def shape : Shape α where
  read := record.read
  choose? := none
  Knows := layout.Known
  read_orNull _ none := nomatch none
  tolerates _ := layout.tolerates

end Record.Layout

end FederationConfig
