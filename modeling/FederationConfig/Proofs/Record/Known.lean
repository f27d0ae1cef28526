import FederationConfig.Record.Codec
import FederationConfig.Proofs.Json.Edit
import FederationConfig.Proofs.Outcome
import Mathlib.Data.List.Basic

/-!
Fields that may be missing, and settings that may have any text. A value that can be read with such
a field can be read without it, and with any text or null in place of a setting.
-/

namespace FederationConfig

variable {α β : Type}

def Json.orNull (content : Option String) : Json := content.elim .null .text

/-- A field that has its place at a path: what becomes of a value without the field and, if it is
a setting, with a text or null there. -/
structure KnownField (α : Type) where
  path : List Json.Step
  path_ne_nil : path ≠ []
  omitted : α → α
  chosen? : Option (Option String → α → α)

namespace KnownField

def Tolerated (field : KnownField α) (read : Tree → Except DecodeFault α) : Prop :=
  ∀ (json : Json) (value : α), read json.toTree = .ok value → json.at? field.path ≠ none →
    read (json.erase field.path).toTree = .ok (field.omitted value) ∧
      ∀ chosen ∈ field.chosen?, ∀ text,
        read (json.put field.path (.orNull text)).toTree = .ok (chosen text value)

def within (step : Json.Step) (modify : (β → β) → α → α) (field : KnownField β) :
    KnownField α where
  path := step :: field.path
  path_ne_nil := List.cons_ne_nil _ _
  omitted := modify field.omitted
  chosen? := field.chosen?.map fun chosen text => modify (chosen text)

def onSome (field : KnownField β) : KnownField (Option β) where
  path := field.path
  path_ne_nil := field.path_ne_nil
  omitted := Option.map field.omitted
  chosen? := field.chosen?.map fun chosen text => Option.map (chosen text)

/-- What stands one step further is read as a part of the value, and can be replaced. -/
def Focus (read : Tree → Except DecodeFault α) (step : Json.Step)
    (readPart : Tree → Except DecodeFault β) (modify : (β → β) → α → α) : Prop :=
  ∀ (json child : Json) (value : α), read json.toTree = .ok value →
    json.child? step = some child →
    ∃ part, readPart child.toTree = .ok part ∧
      ∀ (other : Json) (change : β → β), readPart other.toTree = .ok (change part) →
        read (json.putChild step other).toTree = .ok (modify change value)

theorem Tolerated.within {read : Tree → Except DecodeFault α} {step : Json.Step}
    {readPart : Tree → Except DecodeFault β} {modify : (β → β) → α → α} {field : KnownField β}
    (focus : Focus read step readPart modify) (tolerated : field.Tolerated readPart) :
    (field.within step modify).Tolerated read := by
  intro json value given present
  cases found : json.child? step with
  | none =>
      refine absurd ?_ present
      rw [KnownField.within, Json.at?_cons, found, Option.bind_none]
  | some child =>
      obtain ⟨part, partGiven, replace⟩ := focus json child value given found
      rw [KnownField.within, Json.at?_cons, found, Option.bind_some] at present
      obtain ⟨erased, put⟩ := tolerated child part partGiven present
      constructor
      · show read (json.erase (step :: field.path)).toTree = _
        rw [Json.erase_cons found field.path_ne_nil]
        exact replace _ _ erased
      · intro chosen member text
        obtain ⟨choose, known, rfl⟩ := Option.map_eq_some_iff.mp member
        show read (json.put (step :: field.path) _).toTree = _
        rw [Json.put_cons found]
        exact replace _ _ (put choose known text)

end KnownField

/-- How a value is read, what a text or null stands for if it is a setting, and its known
fields. -/
structure Shape (α : Type) where
  read : Tree → Except DecodeFault α
  choose? : Option (Option String → α)
  Knows : KnownField α → Prop
  read_orNull : ∀ choose ∈ choose?, ∀ text, read (Json.orNull text).toTree = .ok (choose text)
  tolerates : ∀ field, Knows field → field.Tolerated read

namespace Shape

def plain (codec : Codec α) : Shape α where
  read := codec.read
  choose? := none
  Knows _ := False
  read_orNull _ none := nomatch none
  tolerates _ none := none.elim

def setting [Choice α] : Shape (Setting α) where
  read := Codec.setting.read
  choose? := some fun text => text.elim .missing .ofText
  Knows _ := False
  read_orNull := by
    rintro choose ⟨⟩ (_ | text)
    · rfl
    · rfl
  tolerates _ none := none.elim

section Optional

def readOptional (read : Tree → Except DecodeFault α) : Tree → Except DecodeFault (Option α)
  | .null => .ok none
  | tree => (read tree).map some

variable {read : Tree → Except DecodeFault α}

theorem readOptional_of_ne_null {tree : Tree} (present : tree ≠ .null) :
    readOptional read tree = (read tree).map some := by
  cases tree with
  | null => exact absurd rfl present
  | _ => rfl

theorem tolerated_onSome {field : KnownField α} (tolerated : field.Tolerated read) :
    field.onSome.Tolerated (readOptional read) := by
  intro json value given present
  have notNull : json ≠ .null := by
    rintro rfl
    obtain ⟨step, path, same⟩ := List.exists_cons_of_ne_nil field.path_ne_nil
    refine present ?_
    show Json.null.at? field.path = none
    rw [same]
    rfl
  rw [readOptional_of_ne_null (Json.toTree_eq_null.not.mpr notNull)] at given
  obtain ⟨part, partGiven, rfl⟩ := map_eq_ok.mp given
  obtain ⟨erased, put⟩ := tolerated json part partGiven present
  constructor
  · have further := Json.toTree_eq_null.not.mpr (Json.erase_ne_null notNull field.path)
    exact (readOptional_of_ne_null further).trans (map_eq_ok.mpr ⟨_, erased, rfl⟩)
  · intro chosen member text
    obtain ⟨choose, known, rfl⟩ := Option.map_eq_some_iff.mp member
    have further := Json.toTree_eq_null.not.mpr
      (Json.put_ne_null json (.orNull text) field.path_ne_nil)
    exact (readOptional_of_ne_null further).trans (map_eq_ok.mpr ⟨_, put choose known text, rfl⟩)

def optional (shape : Shape α) : Shape (Option α) where
  read := readOptional shape.read
  choose? := shape.choose?.map fun choose => Option.map fun text => choose (some text)
  Knows field := ∃ part, shape.Knows part ∧ part.onSome = field
  read_orNull := by
    rintro choose member (_ | text)
    · obtain ⟨choose, _, rfl⟩ := Option.map_eq_some_iff.mp member
      rfl
    · obtain ⟨choose, known, rfl⟩ := Option.map_eq_some_iff.mp member
      exact map_eq_ok.mpr ⟨_, shape.read_orNull choose known (some text), rfl⟩
  tolerates := by
    rintro _ ⟨part, known, rfl⟩
    exact tolerated_onSome (shape.tolerates part known)

end Optional

section List

def readList (read : Tree → Except DecodeFault α) : Tree → Except DecodeFault (List α)
  | .list items => items.mapM read
  | tree => .error (.wrongType tree "a sequence")

variable {read : Tree → Except DecodeFault α}

theorem focus_item (position : Nat) :
    KnownField.Focus (readList read) (.item position) read fun change values =>
      values.modify position change := by
  intro json child values given found
  cases json with
  | list items =>
      have inside : items[position]? = some child := found
      have trees : (items.map Json.toTree).mapM read = .ok values := by
        rw [← Json.toTrees_eq_map]
        exact given
      have tree : (items.map Json.toTree)[position]? = some child.toTree := by
        rw [List.getElem?_map, inside, Option.map_some]
      obtain ⟨value, read_child⟩ :=
        exists_mapM_eq_ok.mp ⟨values, trees⟩ _ (List.mem_of_getElem? tree)
      have there := (getElem?_of_mapM trees position value).mpr ⟨_, tree, read_child⟩
      refine ⟨value, read_child, fun other change image => ?_⟩
      have replaced := mapM_set trees there image
      rw [← List.map_set, ← Json.toTrees_eq_map] at replaced
      rw [Json.putChild, Json.putItem, if_pos (List.getElem?_eq_some_iff.mp inside).1]
      exact replaced
  | _ => cases found

def list (shape : Shape α) : Shape (List α) where
  read := readList shape.read
  choose? := none
  Knows field := ∃ position part, shape.Knows part ∧
    part.within (.item position) (fun change values => values.modify position change) = field
  read_orNull _ none := nomatch none
  tolerates := by
    rintro _ ⟨position, part, known, rfl⟩
    exact (shape.tolerates part known).within (focus_item position)

end List

end Shape

end FederationConfig
