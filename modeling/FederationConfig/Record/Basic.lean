import FederationConfig.Record.Codec

/-!
Structures with named fields. A field that is not given keeps its default, and fields that a
structure does not have are passed over. A list gives the fields in their order.
-/

namespace FederationConfig

structure Field (α : Type) where
  name : String
  read : Tree → α → Except DecodeFault α
  replay : Buffered → α → Except DecodeFault α
  write? : α → Option Json

namespace Field

variable {α β : Type}

def ofCodec (name : String) (codec : Codec β) (get : α → β) (set : α → β → α) : Field α where
  name := name
  read tree record := (codec.read tree).map (set record)
  replay held record := (codec.replay held).map (set record)
  write? record := some (codec.write (get record))

/-- An absent value is not written; null reads as an absent one. -/
def optional (name : String) (codec : Codec β) (get : α → Option β) (set : α → Option β → α) :
    Field α where
  name := name
  read
    | .null, record => .ok (set record none)
    | tree, record => (codec.read tree).map fun value => set record (some value)
  replay
    | .null, record => .ok (set record none)
    | held, record => (codec.replay held).map fun value => set record (some value)
  write? record := (get record).map codec.write

end Field

structure Record (α : Type) where
  title : String
  fields : List (Field α)
  blank : α

namespace Record

variable {α : Type}

abbrev Partial (α : Type) := List String × α

def takeEntry (found : Option (Field α)) (take : Field α → α → Except DecodeFault α)
    (progress : Partial α) : Except DecodeFault (Partial α) :=
  match found with
  | none => .ok progress
  | some field =>
    if field.name ∈ progress.1 then .error (.duplicateField field.name)
    else (take field progress.2).map fun value => (field.name :: progress.1, value)

/-- Takes values for the fields in their order. Values beyond the last field are left. -/
def takeItems {τ : Type} (take : Field α → τ → α → Except DecodeFault α) :
    List (Field α) → List τ → α → Except DecodeFault α
  | field :: fields, item :: items, value => do takeItems take fields items (← take field item value)
  | _, _, value => .ok value

/-- The field that a key means: by its name, or by its position. -/
def fieldOf? (record : Record α) : Tree → Except DecodeFault (Option (Field α))
  | .text name => .ok (record.fields.find? fun field => field.name = name)
  | .integer position =>
    if 0 ≤ position then .ok record.fields[position.toNat]?
    else .error (.wrongType (.integer position) "field identifier")
  | key => .error (.wrongType key "field identifier")

def readEntry (record : Record α) (progress : Partial α) (entry : Tree × Tree) :
    Except DecodeFault (Partial α) := do
  takeEntry (← record.fieldOf? entry.1) (fun field => field.read entry.2) progress

def readMap (record : Record α) (entries : List (Tree × Tree)) : Except DecodeFault α :=
  (entries.foldlM record.readEntry ([], record.blank)).map Prod.snd

def readList (record : Record α) (items : List Tree) : Except DecodeFault α := do
  let value ← takeItems Field.read record.fields items record.blank
  if record.fields.length < items.length then
    throw (.surplus items.length record.fields.length)
  else return value

def read (record : Record α) : Tree → Except DecodeFault α
  | .map entries => record.readMap entries
  | .list items => record.readList items
  | tree => .error (.wrongType tree ("struct " ++ record.title))

def fieldOfHeld? (record : Record α) : Buffered → Except DecodeFault (Option (Field α))
  | .text name => .ok (record.fields.find? fun field => field.name = name)
  | .unsigned position => .ok record.fields[position]?
  | key => .error (.wrongType key.toTree "field identifier")

def replayEntry (record : Record α) (progress : Partial α) (entry : Buffered × Buffered) :
    Except DecodeFault (Partial α) := do
  takeEntry (← record.fieldOfHeld? entry.1) (fun field => field.replay entry.2) progress

def replayMap (record : Record α) (entries : List (Buffered × Buffered)) : Except DecodeFault α :=
  (entries.foldlM record.replayEntry ([], record.blank)).map Prod.snd

/-- The items that were taken and those that are left are counted apart. -/
def replayList (record : Record α) (items : List Buffered) : Except DecodeFault α := do
  let value ← takeItems Field.replay record.fields items record.blank
  match items.drop record.fields.length with
  | [] => return value
  | left => throw (.surplus (record.fields.length + left.length) record.fields.length)

def replay (record : Record α) : Buffered → Except DecodeFault α
  | .map entries => record.replayMap entries
  | .list items => record.replayList items
  | held => .error (.wrongType held.toTree ("struct " ++ record.title))

def write (record : Record α) (value : α) : Json :=
  .object (record.fields.filterMap fun field =>
    (field.write? value).map fun written => (field.name, written))

def codec (record : Record α) : Codec α := ⟨record.read, record.replay, record.write⟩

end Record

end FederationConfig
