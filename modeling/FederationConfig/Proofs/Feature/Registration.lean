import FederationConfig.Proofs.Feature.Resolution
import Mathlib.Data.List.Basic

/-!
Registries made from lists of features. Of each name the first feature is registered, in the order
in which the names are met, and what is registered already is not changed by what follows it.
-/

namespace FederationConfig

namespace Feature

def firstNamed? (features : List Feature) (name : String) : Option Feature :=
  features.find? fun feature => feature.name = name

def firstPlace (features : List Feature) (name : String) : Nat :=
  (features.map Feature.name).idxOf name

theorem firstNamed?_cons (feature : Feature) (rest : List Feature) (name : String) :
    firstNamed? (feature :: rest) name =
      if feature.name = name then some feature else firstNamed? rest name := by
  by_cases named : feature.name = name <;> simp [firstNamed?, named]

theorem firstPlace_cons (feature : Feature) (rest : List Feature) (name : String) :
    firstPlace (feature :: rest) name =
      if feature.name = name then 0 else firstPlace rest name + 1 := by
  by_cases named : feature.name = name <;> simp [firstPlace, named]

theorem firstNamed?_eq_none_iff (features : List Feature) (name : String) :
    firstNamed? features name = none ↔ name ∉ features.map Feature.name := by
  simp [firstNamed?]

theorem name_of_firstNamed? {features : List Feature} {name : String} {feature : Feature}
    (first : firstNamed? features name = some feature) : feature.name = name := by
  have found := List.find?_some first
  exact of_decide_eq_true found

theorem mem_firstOfEachName_iff (features : List Feature) (feature : Feature) :
    feature ∈ firstOfEachName features ↔ firstNamed? features feature.name = some feature := by
  induction features with
  | nil => simp [firstOfEachName, firstNamed?]
  | cons first rest ih =>
      rw [firstOfEachName, List.mem_cons, List.mem_filter, ih, firstNamed?_cons]
      by_cases named : first.name = feature.name
      · simp [named, eq_comm]
      · have other : feature ≠ first := fun same => named (same ▸ rfl)
        simp [named, other, Ne.symm named]

theorem name_mem_firstOfEachName_iff (features : List Feature) (name : String) :
    name ∈ (firstOfEachName features).map Feature.name ↔ name ∈ features.map Feature.name := by
  rw [List.mem_map, ← not_iff_not, ← firstNamed?_eq_none_iff]
  constructor
  · intro unregistered
    cases first : firstNamed? features name with
    | none => rfl
    | some feature =>
        obtain rfl := name_of_firstNamed? first
        exact absurd ⟨feature, (mem_firstOfEachName_iff features feature).mpr first, rfl⟩
          unregistered
  · rintro none ⟨feature, member, rfl⟩
    rw [(mem_firstOfEachName_iff features feature).mp member] at none
    cases none

theorem pairwise_firstPlace (features : List Feature) :
    (firstOfEachName features).Pairwise fun earlier later =>
      firstPlace features earlier.name < firstPlace features later.name := by
  induction features with
  | nil => exact List.Pairwise.nil
  | cons first rest ih =>
      have others : ∀ other ∈ (firstOfEachName rest).filter fun other => other.name ≠ first.name,
          firstPlace (first :: rest) other.name = firstPlace rest other.name + 1 := by
        intro other member
        have named := of_decide_eq_true (List.mem_filter.mp member).2
        rw [firstPlace_cons, if_neg (Ne.symm named)]
      rw [firstOfEachName, List.pairwise_cons]
      constructor
      · intro other member
        rw [others other member, firstPlace_cons, if_pos rfl]
        exact Nat.succ_pos _
      · refine (ih.filter _).imp_of_mem ?_
        intro earlier later member memberToo order
        rw [others earlier member, others later memberToo]
        exact Nat.succ_lt_succ order

theorem firstOfEachName_append (features more : List Feature) :
    firstOfEachName (features ++ more) = firstOfEachName features ++
      (firstOfEachName more).filter fun other => other.name ∉ features.map Feature.name := by
  induction features with
  | nil => simp [firstOfEachName]
  | cons first rest ih =>
      rw [List.cons_append, firstOfEachName, ih, List.filter_append, List.filter_filter]
      simp [firstOfEachName]

theorem firstOfEachName_concat (features : List Feature) (feature : Feature) :
    firstOfEachName (features ++ [feature]) =
      if feature.name ∈ features.map Feature.name then firstOfEachName features
      else firstOfEachName features ++ [feature] := by
  have single : firstOfEachName [feature] = [feature] := rfl
  rw [firstOfEachName_append, single, List.filter_singleton]
  by_cases repeated : feature.name ∈ features.map Feature.name <;> simp [repeated]

theorem firstOfEachName_of_nodup {features : List Feature}
    (distinct : (features.map Feature.name).Nodup) : firstOfEachName features = features := by
  induction features with
  | nil => rfl
  | cons first rest ih =>
      rw [List.map_cons, List.nodup_cons] at distinct
      obtain ⟨fresh, distinct⟩ := distinct
      rw [firstOfEachName, ih distinct, List.filter_eq_self.mpr]
      intro other member
      exact decide_eq_true fun same => fresh (same ▸ List.mem_map_of_mem member)

end Feature

open Feature (firstNamed? firstPlace firstOfEachName)

namespace FeatureRegistry

/-- Features that are taken up one after the other, and the names that were met on the way. -/
structure Registration where
  seen : List String
  kept : List Feature

namespace Registration

def start : Registration := ⟨[], []⟩

def add (registration : Registration) (feature : Feature) : Registration :=
  if feature.name ∈ registration.seen then registration
  else ⟨feature.name :: registration.seen, registration.kept ++ [feature]⟩

/-- What a registration has come to after some features. -/
structure Follows (features : List Feature) (registration : Registration) : Prop where
  seen : ∀ name, name ∈ registration.seen ↔ name ∈ features.map Feature.name
  kept : registration.kept = firstOfEachName features

theorem Follows.add {features : List Feature} {registration : Registration}
    (follows : Follows features registration) (feature : Feature) :
    Follows (features ++ [feature]) (registration.add feature) := by
  by_cases repeated : feature.name ∈ features.map Feature.name
  · rw [Registration.add, if_pos ((follows.seen feature.name).mpr repeated)]
    constructor
    · intro name
      rw [follows.seen, List.map_append, List.mem_append, List.map_singleton,
        List.mem_singleton, or_iff_left_of_imp (fun same => same ▸ repeated)]
    · rw [Feature.firstOfEachName_concat, if_pos repeated, follows.kept]
  · rw [Registration.add, if_neg fun seen => repeated ((follows.seen feature.name).mp seen)]
    constructor
    · intro name
      rw [List.mem_cons, follows.seen, List.map_append, List.mem_append, List.map_singleton,
        List.mem_singleton, or_comm]
    · rw [Feature.firstOfEachName_concat, if_neg repeated, follows.kept]

theorem follows_foldl (features : List Feature) :
    Follows features (features.foldl Registration.add start) := by
  -- From the front, since the last feature is met with the names of all others.
  induction features using List.reverseRecOn with
  | nil => exact ⟨fun _ => Iff.rfl, rfl⟩
  | append_singleton features feature ih =>
      rw [List.foldl_concat]
      exact ih.add feature

end Registration

theorem ofList_features (registry : FeatureRegistry) : ofList registry.features = registry := by
  cases registry with
  | mk features distinct => simp only [ofList, Feature.firstOfEachName_of_nodup distinct]

theorem contains_iff (registry : FeatureRegistry) (name : String) :
    registry.contains name ↔ name ∈ registry.names := by
  simp [contains, names]

theorem lookup_resolve_ofList (features : List Feature) (gates : List FeatureGate)
    (name : String) :
    ((ofList features).resolve gates).lookup name =
      (firstNamed? features name).map fun feature => feature.stateUnder gates := by
  cases first : firstNamed? features name with
  | some feature =>
      obtain rfl := Feature.name_of_firstNamed? first
      exact lookup_resolve _ gates ((Feature.mem_firstOfEachName_iff features feature).mpr first)
  | none =>
      have unregistered : name ∉ ((ofList features).resolve gates).map Prod.fst := by
        rw [map_fst_resolve]
        exact fun member => (Feature.firstNamed?_eq_none_iff features name).mp first
          ((Feature.name_mem_firstOfEachName_iff features name).mp member)
      rw [Option.map_none, List.lookup_eq_none_iff]
      intro entry member
      exact bne_iff_ne.mpr fun same => unregistered (same ▸ List.mem_map_of_mem member)

/-- The first feature of each name in a list, in the order in which the names are met. -/
structure RegistersFirst (features : List Feature) (registry : FeatureRegistry) : Prop where
  nodup : registry.names.Nodup
  mem_names_iff : ∀ name, name ∈ registry.names ↔ name ∈ features.map Feature.name
  mem_iff : ∀ feature, feature ∈ registry.features ↔
    firstNamed? features feature.name = some feature
  in_order : registry.features.Pairwise fun earlier later =>
    firstPlace features earlier.name < firstPlace features later.name

theorem registersFirst_ofList (features : List Feature) :
    RegistersFirst features (ofList features) where
  nodup := (ofList features).nodup
  mem_names_iff := Feature.name_mem_firstOfEachName_iff features
  mem_iff := Feature.mem_firstOfEachName_iff features
  in_order := Feature.pairwise_firstPlace features

/-- A registry of a list holds the first feature of each name, which is what one pass keeps that
remembers the names it has met. Registering again changes nothing, and features behind the list are
registered only under new names. The registered names are the ones that are known, and gates are
resolved from the first feature of a name. -/
theorem ofList_registers_first (features : List Feature) :
    RegistersFirst features (ofList features) ∧
      (features.foldl Registration.add .start).kept = (ofList features).features ∧
      (∀ registry : FeatureRegistry, ofList registry.features = registry) ∧
      (∀ more, (ofList (features ++ more)).features = (ofList features).features ++
        (ofList more).features.filter fun other => other.name ∉ features.map Feature.name) ∧
      (∀ name, (ofList features).contains name ↔ name ∈ (ofList features).names) ∧
      ∀ gates name, ((ofList features).resolve gates).lookup name =
        (firstNamed? features name).map fun feature => feature.stateUnder gates :=
  ⟨registersFirst_ofList features, (Registration.follows_foldl features).kept, ofList_features,
    Feature.firstOfEachName_append features, contains_iff (ofList features),
    lookup_resolve_ofList features⟩

end FeatureRegistry

end FederationConfig
