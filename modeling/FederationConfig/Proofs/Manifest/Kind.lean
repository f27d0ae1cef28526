import FederationConfig.Manifest.Reading
import FederationConfig.Proofs.Manifest.Replay
import FederationConfig.Proofs.Record.Names
import Mathlib.Data.List.Nodup

/-!
Documents in JSON, told apart by their kind. The kind may stand anywhere among the keys, and its
object is read as the whole document would be, since no record has a field of that name.
-/

namespace FederationConfig

mutual

/-- Nothing in JSON carries a tag, so that all of it can be held. -/
def Json.held : Json → Buffered
  | .null => .null
  | .bool value => .bool value
  | .integer (.ofNat value) => .unsigned value
  | .integer (.negSucc distance) => .negative distance
  | .float value => .float value
  | .text value => .text value
  | .list items => .list (Json.heldItems items)
  | .object entries => .map (Json.heldEntries entries)

def Json.heldItems : List Json → List Buffered
  | [] => []
  | item :: rest => item.held :: Json.heldItems rest

def Json.heldEntries : List (String × Json) → List (Buffered × Buffered)
  | [] => []
  | (key, value) :: rest => (.text key, value.held) :: Json.heldEntries rest

end

mutual

theorem Json.ofTree_toTree (json : Json) : Buffered.ofTree json.toTree = .ok json.held := by
  cases json with
  | integer value =>
      cases value with
      | ofNat value => rfl
      | negSucc distance => rfl
  | list items => exact congrArg (Except.map Buffered.list) (Json.ofTrees_toTrees items)
  | object entries => exact congrArg (Except.map Buffered.map) (Json.ofEntries_toEntries entries)
  | _ => rfl

theorem Json.ofTrees_toTrees (items : List Json) :
    Buffered.ofTrees (Json.toTrees items) = .ok (Json.heldItems items) := by
  cases items with
  | nil => rfl
  | cons item items =>
      rw [Json.toTrees, Buffered.ofTrees, item.ofTree_toTree, Json.ofTrees_toTrees items]
      rfl

theorem Json.ofEntries_toEntries (entries : List (String × Json)) :
    Buffered.ofEntries (Json.toEntries entries) = .ok (Json.heldEntries entries) := by
  cases entries with
  | nil => rfl
  | cons entry entries =>
      obtain ⟨key, value⟩ := entry
      rw [Json.toEntries, Buffered.ofEntries, value.ofTree_toTree,
        Json.ofEntries_toEntries entries]
      rfl

end

theorem Json.toTree_held (json : Json) : json.held.toTree = json.toTree :=
  Buffered.toTree_ofTree json.ofTree_toTree

theorem Json.heldEntries_append (front back : List (String × Json)) :
    Json.heldEntries (front ++ back) = Json.heldEntries front ++ Json.heldEntries back := by
  induction front with
  | nil => rfl
  | cons entry front ih =>
      obtain ⟨key, value⟩ := entry
      rw [List.cons_append, Json.heldEntries, ih, Json.heldEntries, List.cons_append]

namespace ManifestKind

theorem ofTree_name (kind : ManifestKind) : ofTree (Json.text kind.name).toTree = .ok kind := by
  cases kind <;> rfl

theorem eq_name_of_ofTree {value : Json} {kind : ManifestKind}
    (known : ofTree value.toTree = .ok kind) : value = .text kind.name := by
  cases value with
  | text name =>
      simp only [ofTree, Json.toTree, Tree.untagged] at known
      cases found : ofName? name with
      | none =>
          rw [found] at known
          cases known
      | some other =>
          rw [found] at known
          cases known
          have same := List.find?_some found
          rw [of_decide_eq_true same]
  | _ => cases known

end ManifestKind

namespace Manifest

variable {found : Option ManifestKind} {kind : ManifestKind} {others : List (Buffered × Buffered)}
  {front back entries : List (String × Json)}

theorem takeKind_other (found : Option ManifestKind) (others : List (Buffered × Buffered))
    {key : String} (other : key ≠ "kind") (value : Json) (rest : List (Tree × Tree)) :
    takeKind found others ((.text key, value.toTree) :: rest) =
      takeKind found ((.text key, value.held) :: others) rest := by
  have differ : isKindKey (.text key) = false := decide_eq_false other
  rw [takeKind, differ, value.ofTree_toTree]
  rfl

theorem takeKind_kind (others : List (Buffered × Buffered)) (value : Json) (rest : List (Tree × Tree)) :
    takeKind none others ((.text "kind", value.toTree) :: rest) =
      ManifestKind.ofTree value.toTree >>= fun kind => takeKind (some kind) others rest := by
  have here : isKindKey (.text "kind") = true := rfl
  have first : ¬ (none : Option ManifestKind).isSome = true := Bool.false_ne_true
  rw [takeKind, if_pos here, if_neg first]
  cases ManifestKind.ofTree value.toTree with
  | error fault => rfl
  | ok kind => rfl

theorem takeKind_others (other : ∀ entry ∈ front, entry.1 ≠ "kind")
    (found : Option ManifestKind) (others : List (Buffered × Buffered))
    (rest : List (Tree × Tree)) :
    takeKind found others (Json.toEntries front ++ rest) =
      takeKind found ((Json.heldEntries front).reverse ++ others) rest := by
  induction front generalizing others with
  | nil => rfl
  | cons entry front ih =>
      obtain ⟨key, value⟩ := entry
      obtain ⟨differ, later⟩ := List.forall_mem_cons.mp other
      rw [Json.toEntries, List.cons_append, takeKind_other found others differ, ih later,
        Json.heldEntries, List.reverse_cons, List.append_assoc, List.singleton_append]

/-- The kind is taken out wherever it stands. -/
theorem takeKind_between (kind : ManifestKind) (before : ∀ entry ∈ front, entry.1 ≠ "kind")
    (behind : ∀ entry ∈ back, entry.1 ≠ "kind") :
    takeKind none [] (Json.toEntries (front ++ ("kind", .text kind.name) :: back)) =
      .ok (kind, Json.heldEntries (front ++ back)) := by
  have parts (entries : List (String × Json)) :
      Json.toEntries (front ++ entries) = Json.toEntries front ++ Json.toEntries entries := by
    simp only [Json.toEntries_eq_map, List.map_append]
  have rest := takeKind_others behind (some kind) (Json.heldEntries front).reverse []
  rw [List.append_nil] at rest
  calc
    _ = takeKind none (Json.heldEntries front).reverse
          ((.text "kind", (Json.text kind.name).toTree) :: Json.toEntries back) := by
      rw [parts, takeKind_others before, List.append_nil, Json.toEntries]
    _ = takeKind (some kind) (Json.heldEntries front).reverse (Json.toEntries back) := by
      rw [takeKind_kind, kind.ofTree_name]
      rfl
    _ = .ok (kind, Json.heldEntries (front ++ back)) := by
      rw [rest, takeKind, List.reverse_append, List.reverse_reverse, List.reverse_reverse,
        Json.heldEntries_append]

theorem mem_of_takeKind {object : List (Buffered × Buffered)}
    (taken : takeKind found others (Json.toEntries entries) = .ok (kind, object)) :
    found = some kind ∨ ("kind", .text kind.name) ∈ entries := by
  induction entries generalizing found others with
  | nil =>
      cases found with
      | none => cases taken
      | some other =>
          cases taken
          exact .inl rfl
  | cons entry entries ih =>
      obtain ⟨key, value⟩ := entry
      rw [Json.toEntries] at taken
      by_cases here : key = "kind"
      · subst here
        cases found with
        | some other => cases taken
        | none =>
            rw [takeKind_kind, bind_eq_ok] at taken
            obtain ⟨other, known, taken⟩ := taken
            rcases ih taken with same | later
            · cases same
              rw [ManifestKind.eq_name_of_ofTree known]
              exact .inr List.mem_cons_self
            · exact .inr (List.mem_cons_of_mem _ later)
      · rw [takeKind_other found others here] at taken
        rcases ih taken with same | later
        · exact .inl same
        · exact .inr (List.mem_cons_of_mem _ later)

/-- Under a kind that is named once, the whole document is read as the object. -/
theorem ofTree_of_kind (kind : ManifestKind) (distinct : (entries.map Prod.fst).Nodup)
    (named : ("kind", .text kind.name) ∈ entries) :
    ofTree (Json.object entries).toTree =
      (ofObject kind (Json.object entries).toTree).mapError .undecodable := by
  obtain ⟨front, back, rfl⟩ := List.append_of_mem named
  have alone : ∀ entry ∈ front ++ back, entry.1 ≠ "kind" := by
    rw [List.map_append, List.map_cons, List.nodup_middle, List.nodup_cons, ← List.map_append]
      at distinct
    intro entry member same
    exact distinct.1 (List.mem_map.mpr ⟨entry, member, same⟩)
  obtain ⟨before, behind⟩ := List.forall_mem_append.mp alone
  have object : ofObject kind (Json.object (front ++ ("kind", .text kind.name) :: back)).toTree =
      ofObject kind (Json.object (front ++ back)).toTree := by
    cases kind with
    | typeConfig =>
        rw [ofObject, Record.read_unknown (by decide)]
        rfl
    | operatorConfig =>
        rw [ofObject, Record.read_unknown (by decide)]
        rfl
  have taken : identify (Json.object (front ++ ("kind", .text kind.name) :: back)).toTree =
      .ok (kind, (Json.object (front ++ back)).held) := by
    show (takeKind none [] (Json.toEntries _)).map _ = _
    rw [takeKind_between kind before behind]
    rfl
  rw [ofTree, taken, object, ← Json.toTree_held, ← replay_eq_ofObject]
  rfl

theorem ofTree_of_no_kind (unnamed : ∀ kind : ManifestKind, ("kind", .text kind.name) ∉ entries) :
    ∃ fault, ofTree (Json.object entries).toTree = .error (.unidentified fault) := by
  cases taken : takeKind none [] (Json.toEntries entries) with
  | error fault =>
      refine ⟨fault, ?_⟩
      have failed : identify (Json.object entries).toTree = .error fault := by
        show (takeKind none [] (Json.toEntries entries)).map _ = _
        rw [taken]
        rfl
      rw [ofTree, failed]
      rfl
  | ok result =>
      rcases mem_of_takeKind taken with none | named
      · cases none
      · exact absurd named (unnamed result.1)

/-- A document with different keys is a manifest of the kind that it names, wherever it does, if
and only if the whole of it is read as the object of that kind, and then it is of that object. A
document that names neither kind is no manifest, whatever else it says. -/
theorem documents_read_by_kind (entries : List (String × Json)) :
    ((entries.map Prod.fst).Nodup →
      (("kind", .text "FederatedTypeConfig") ∈ entries → ∀ manifest,
        ofTree (Json.object entries).toTree = .ok manifest ↔
          ∃ config, TypeConfig.record.read (Json.object entries).toTree = .ok config ∧
            manifest = .typeConfig config) ∧
      (("kind", .text "KubeFedConfig") ∈ entries → ∀ manifest,
        ofTree (Json.object entries).toTree = .ok manifest ↔
          ∃ config, OperatorConfig.record.read (Json.object entries).toTree = .ok config ∧
            manifest = .operatorConfig config)) ∧
    (("kind", .text "FederatedTypeConfig") ∉ entries → ("kind", .text "KubeFedConfig") ∉ entries →
      ∃ fault, ofTree (Json.object entries).toTree = .error (.unidentified fault)) := by
  constructor
  · intro distinct
    constructor
    · intro named manifest
      rw [ofTree_of_kind .typeConfig distinct named, mapError_eq_ok, ofObject, map_eq_ok]
      simp only [eq_comm]
    · intro named manifest
      rw [ofTree_of_kind .operatorConfig distinct named, mapError_eq_ok, ofObject, map_eq_ok]
      simp only [eq_comm]
  · intro noType noOperator
    apply ofTree_of_no_kind
    intro kind
    cases kind with
    | typeConfig => exact noType
    | operatorConfig => exact noOperator

/-- The kind behind a spec that holds a kind of its own, with lists in place of records, an absent
value and the least integer; and the same document without a kind. -/
theorem documents_read_behind_spec :
    let spec : String × Json := ("spec", .object [("targetType", .object [("kind", .text "Pod")])])
    let status : String × Json := ("status", .list [.integer (-2 ^ 63)])
    let kind : String × Json := ("kind", .text "FederatedTypeConfig")
    let metadata : String × Json := ("metadata", .list [.text "pods", .null])
    let config : TypeConfig :=
      { metadata := { name := "pods" }, spec := { targetType := { kind := "Pod" } },
        status := { observedGeneration := Int64.minValue } }
    ofTree (Json.object [spec, status, kind, metadata]).toTree = .ok (.typeConfig config) ∧
      ∃ fault, ofTree (Json.object [spec, status, metadata]).toTree =
        .error (.unidentified fault) := by
  intro spec status kind metadata config
  have named : ("kind", .text "FederatedTypeConfig") ∈ [spec, status, kind, metadata] :=
    List.mem_cons_of_mem _ (List.mem_cons_of_mem _ List.mem_cons_self)
  have whole : TypeConfig.record.read (Json.object [spec, status, kind, metadata]).toTree =
      .ok config := by
    rfl
  constructor
  · exact (((documents_read_by_kind _).1 (by decide)).1 named _).mpr ⟨config, whole, rfl⟩
  · apply (documents_read_by_kind _).2
    · simp [spec, status, metadata]
    · simp [spec, status, metadata]

end Manifest

end FederationConfig
