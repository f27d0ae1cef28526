import FederationConfig.Field.Encoding
import FederationConfig.Json.Basic
import FederationConfig.Proofs.Record.Names

/-!
Field paths as ways into JSON. A violation shows a part of an object when its path leads to that
part and its bad value is what is written there.
-/

namespace FederationConfig

def PathSegment.step : PathSegment → Json.Step
  | field name => .key name
  | index position => .item position

def FieldPath.steps (path : FieldPath) : List Json.Step := path.segments.map PathSegment.step

/-- A required value is missing where there is an empty text. -/
def Violation.shown (violation : Violation) : Json :=
  if violation.kind = .required then .text "" else violation.badValue.toJson

def Violation.ShowsIn (root : Json) (violation : Violation) : Prop :=
  root.at? violation.field.steps = some violation.shown

def Violations.ShowIn (root : Json) (violations : Violations) : Prop :=
  ∀ violation ∈ violations, violation.ShowsIn root

theorem Violations.showIn_append {root : Json} {front back : Violations}
    (first : front.ShowIn root) (second : back.ShowIn root) :
    Violations.ShowIn root (front ++ back) :=
  List.forall_mem_append.mpr ⟨first, second⟩

theorem Violations.showIn_nil (root : Json) : Violations.ShowIn root [] :=
  fun _ member => nomatch member

theorem Violations.showIn_single {root : Json} {violation : Violation}
    (shows : violation.ShowsIn root) : Violations.ShowIn root [violation] :=
  List.forall_mem_singleton.mpr shows

theorem Violations.showIn_when (broken : Prop) [Decidable broken] {root : Json}
    {violation : Violation} (shows : violation.ShowsIn root) :
    Violations.ShowIn root (if broken then [violation] else []) := by
  split
  · exact showIn_single shows
  · exact showIn_nil root

namespace FieldPath

variable {root : Json} {path : FieldPath}

theorem at?_ofRoot (root : Json) (name : String) :
    root.at? (ofRoot name).steps = root.child? (.key name) := by
  cases found : root.child? (.key name) <;>
    simp [ofRoot, steps, segments, PathSegment.step, Json.at?, found]

theorem at?_extend (segment : PathSegment) :
    root.at? (steps ⟨path.root, path.below ++ [segment]⟩) =
      (root.at? path.steps).bind (Json.child? · segment.step) := by
  simp [steps, segments, Json.at?, List.foldlM_append, Option.bind_assoc]

theorem at?_child {json : Json} (located : root.at? path.steps = some json) (name : String) :
    root.at? (path.child name).steps = json.child? (.key name) := by
  rw [child, at?_extend, located]
  rfl

theorem at?_item {json : Json} (located : root.at? path.steps = some json) (position : Nat) :
    root.at? (path.item position).steps = json.child? (.item position) := by
  rw [item, at?_extend, located]
  rfl

end FieldPath

theorem FieldPath.at?_field {α : Type} {record : Record α} {value : α} {root : Json}
    {path : FieldPath} (located : root.at? path.steps = some (record.write value))
    (distinct : record.HasDistinctNames) (position : Nat)
    (inside : position < record.fields.length) :
    root.at? (path.child record.fields[position].name).steps =
      record.fields[position].write? value := by
  rw [at?_child located, record.child?_write distinct value _ (List.getElem_mem inside)]

end FederationConfig
