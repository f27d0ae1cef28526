import FederationConfig.Feature
import Mathlib.Data.List.Induction
import Mathlib.Data.List.Nodup

namespace FederationConfig

namespace FeatureGate

def firstOf? (gates : List FeatureGate) (name : String) : Option FeatureGate :=
  gates.find? fun gate => gate.name = name

theorem firstOf?_append (front back : List FeatureGate) (name : String) :
    firstOf? (front ++ back) name = (firstOf? front name).or (firstOf? back name) :=
  List.find?_append

theorem firstOf?_singleton (gate : FeatureGate) (name : String) :
    firstOf? [gate] name = if gate.name = name then some gate else none := by
  simp [firstOf?]

theorem firstOf?_eq_none_iff (gates : List FeatureGate) (name : String) :
    firstOf? gates name = none ↔ name ∉ gates.map FeatureGate.name := by
  simp [firstOf?]

theorem name_of_firstOf? {gates : List FeatureGate} {name : String} {gate : FeatureGate}
    (first : firstOf? gates name = some gate) : gate.name = name := by
  have found := List.find?_some first
  exact of_decide_eq_true found

theorem firstOf?_append_of_mem {front : List FeatureGate} {name : String}
    (named : name ∈ front.map FeatureGate.name) (back : List FeatureGate) :
    firstOf? (front ++ back) name = firstOf? front name := by
  rw [firstOf?_append]
  cases first : firstOf? front name with
  | none => exact absurd named ((firstOf?_eq_none_iff front name).mp first)
  | some gate => rfl

theorem firstOf?_append_of_not_mem {front : List FeatureGate} {name : String}
    (unnamed : name ∉ front.map FeatureGate.name) (back : List FeatureGate) :
    firstOf? (front ++ back) name = firstOf? back name := by
  rw [firstOf?_append, (firstOf?_eq_none_iff front name).mpr unnamed, Option.none_or]

theorem firstOf?_without_repeated {front : List FeatureGate} {gate : FeatureGate}
    (repeated : gate.name ∈ front.map FeatureGate.name) (rest : List FeatureGate) (name : String) :
    firstOf? (front ++ gate :: rest) name = firstOf? (front ++ rest) name := by
  by_cases named : name ∈ front.map FeatureGate.name
  · rw [firstOf?_append_of_mem named, firstOf?_append_of_mem named]
  · have other : gate.name ≠ name := fun same => named (same ▸ repeated)
    rw [firstOf?_append_of_not_mem named, firstOf?_append_of_not_mem named]
    simp [firstOf?, other]

end FeatureGate

open FeatureGate (firstOf? firstOf?_singleton firstOf?_append_of_mem firstOf?_append_of_not_mem
  firstOf?_eq_none_iff firstOf?_without_repeated)

namespace Feature

/-- The state of a feature under a list of gates: what the first gate of its name says, or the
default if there is no such gate or it says nothing that is known. -/
def stateUnder (feature : Feature) (gates : List FeatureGate) : Bool :=
  match (firstOf? gates feature.name).map FeatureGate.configuration with
  | some (.known toggle) => toggle = .enabled
  | some .missing | some (.unrecognized _) | none => feature.enabledByDefault

theorem stateUnder_congr {feature : Feature} {gates other : List FeatureGate}
    (same : firstOf? gates feature.name = firstOf? other feature.name) :
    feature.stateUnder gates = feature.stateUnder other := by
  rw [stateUnder, stateUnder, same]

theorem stateUnder_of_not_mem {feature : Feature} {gates : List FeatureGate}
    (unnamed : feature.name ∉ gates.map FeatureGate.name) :
    feature.stateUnder gates = feature.enabledByDefault := by
  rw [stateUnder, (firstOf?_eq_none_iff gates feature.name).mpr unnamed]
  rfl

theorem stateUnder_append_fresh {gates : List FeatureGate} {gate : FeatureGate}
    (fresh : gate.name ∉ gates.map FeatureGate.name) (feature : Feature) :
    feature.stateUnder (gates ++ [gate]) =
      match gate.configuration.known? with
      | none => feature.stateUnder gates
      | some toggle =>
        if feature.name = gate.name then decide (toggle = .enabled)
        else feature.stateUnder gates := by
  by_cases same : feature.name = gate.name
  · have unnamed : feature.name ∉ gates.map FeatureGate.name := same ▸ fresh
    have first : firstOf? (gates ++ [gate]) feature.name = some gate := by
      rw [firstOf?_append_of_not_mem unnamed, firstOf?_singleton, if_pos same.symm]
    rw [stateUnder, first, stateUnder_of_not_mem unnamed]
    cases given : gate.configuration <;> simp [Setting.known?, given, same]
  · have kept : firstOf? (gates ++ [gate]) feature.name = firstOf? gates feature.name := by
      rw [FeatureGate.firstOf?_append, firstOf?_singleton, if_neg (Ne.symm same), Option.or_none]
    rw [stateUnder_congr kept]
    cases gate.configuration.known? <;> simp [same]

end Feature

namespace FeatureRegistry

/-- What a resolution has come to after some gates: their names are decided, and each feature is in
the state that these gates give it. -/
structure Resolution.Follows (registry : FeatureRegistry) (gates : List FeatureGate)
    (resolution : Resolution) : Prop where
  decided : ∀ name, name ∈ resolution.decided ↔ name ∈ gates.map FeatureGate.name
  states : resolution.states =
    registry.features.map fun feature => (feature.name, feature.stateUnder gates)

namespace Resolution

variable {registry : FeatureRegistry} {gates : List FeatureGate} {resolution : Resolution}

theorem Follows.apply (follows : Follows registry gates resolution) (gate : FeatureGate) :
    Follows registry (gates ++ [gate]) (resolution.apply gate) := by
  by_cases repeated : gate.name ∈ gates.map FeatureGate.name
  · have skipped : resolution.apply gate = resolution := by
      rw [Resolution.apply, if_pos ((follows.decided gate.name).mpr repeated)]
    rw [skipped]
    constructor
    · intro name
      rw [follows.decided, List.map_append, List.mem_append, List.map_singleton,
        List.mem_singleton, or_iff_left_of_imp (fun same => same ▸ repeated)]
    · rw [follows.states]
      apply List.map_congr_left
      intro feature _
      have kept := firstOf?_without_repeated repeated [] feature.name
      rw [List.append_nil] at kept
      rw [Feature.stateUnder_congr kept]
  · rw [Resolution.apply, if_neg fun decided => repeated ((follows.decided gate.name).mp decided)]
    constructor
    · intro name
      rw [List.mem_cons, follows.decided, List.map_append, List.mem_append, List.map_singleton,
        List.mem_singleton, or_comm]
    · simp only [follows.states, Feature.stateUnder_append_fresh repeated]
      cases gate.configuration.known? with
      | none => rfl
      | some toggle => exact List.map_map

theorem follows_foldl (registry : FeatureRegistry) (gates : List FeatureGate) :
    Follows registry gates (gates.foldl Resolution.apply
      ⟨[], registry.features.map fun feature => (feature.name, feature.enabledByDefault)⟩) := by
  -- From the front, since the last gate is met with the names of all others decided.
  induction gates using List.reverseRecOn with
  | nil => exact ⟨fun _ => Iff.rfl, rfl⟩
  | append_singleton gates gate ih =>
      rw [List.foldl_concat]
      exact ih.apply gate

end Resolution

theorem resolve_eq (registry : FeatureRegistry) (gates : List FeatureGate) :
    registry.resolve gates =
      registry.features.map fun feature => (feature.name, feature.stateUnder gates) :=
  (Resolution.follows_foldl registry gates).states

theorem resolve_eq_iff (registry : FeatureRegistry) (gates other : List FeatureGate) :
    registry.resolve gates = registry.resolve other ↔
      ∀ feature ∈ registry.features, feature.stateUnder gates = feature.stateUnder other := by
  rw [resolve_eq, resolve_eq, List.map_inj_left]
  simp only [Prod.mk.injEq, true_and]

theorem resolve_congr {registry : FeatureRegistry} {gates other : List FeatureGate}
    (same : ∀ name ∈ registry.names, firstOf? gates name = firstOf? other name) :
    registry.resolve gates = registry.resolve other := by
  rw [resolve_eq_iff]
  intro feature member
  exact Feature.stateUnder_congr (same feature.name (List.mem_map_of_mem member))

theorem map_fst_resolve (registry : FeatureRegistry) (gates : List FeatureGate) :
    (registry.resolve gates).map Prod.fst = registry.names := by
  rw [resolve_eq, List.map_map]
  rfl

theorem lookup_resolve (registry : FeatureRegistry) (gates : List FeatureGate) {feature : Feature}
    (member : feature ∈ registry.features) :
    (registry.resolve gates).lookup feature.name = some (feature.stateUnder gates) := by
  obtain ⟨front, back, parts⟩ := List.append_of_mem member
  have fresh : feature.name ∉ front.map Feature.name := by
    have distinct := registry.nodup
    rw [parts, List.map_append, List.map_cons] at distinct
    exact fun earlier => List.disjoint_of_nodup_append distinct earlier List.mem_cons_self
  rw [resolve_eq, parts, List.map_append, List.map_cons, List.lookup_eq_some_iff]
  refine ⟨_, _, rfl, ?_⟩
  intro entry inside
  obtain ⟨other, earlier, rfl⟩ := List.mem_map.mp inside
  exact bne_iff_ne.mpr fun same => fresh (same ▸ List.mem_map_of_mem earlier)

/-- The first gate of each registered name decides, and no other gate has an effect. -/
theorem resolve_by_first_gates (registry : FeatureRegistry) (gates : List FeatureGate) :
    (registry.resolve gates).map Prod.fst = registry.names ∧
      (∀ feature ∈ registry.features,
        (registry.resolve gates).lookup feature.name = some (feature.stateUnder gates)) ∧
      ∀ front gate rest, gates = front ++ gate :: rest →
        gate.name ∈ front.map FeatureGate.name ∨ gate.name ∉ registry.names →
        registry.resolve gates = registry.resolve (front ++ rest) := by
  refine ⟨registry.map_fst_resolve gates, fun feature => registry.lookup_resolve gates, ?_⟩
  rintro front gate rest rfl uncounted
  apply resolve_congr
  intro name registered
  rcases uncounted with repeated | unregistered
  · exact firstOf?_without_repeated repeated rest name
  · have other : gate.name ≠ name := fun same => unregistered (same ▸ registered)
    simp [firstOf?, List.find?_append, other]

theorem resolve_default_by_first_gates :
    let unknown : FeatureGate := ⟨"FederatedIngress", .unrecognized "Sometimes"⟩
    let foreign : FeatureGate := ⟨"Ingress", .known .enabled⟩
    let repeated : FeatureGate := ⟨"FederatedIngress", .known .disabled⟩
    let gates := [unknown, foreign, repeated]
    ⟨"FederatedIngress", .alpha, true⟩ ∈ default.features ∧
      (default.resolve gates).lookup "FederatedIngress" = some true ∧
      repeated.name ∈ [unknown, foreign].map FeatureGate.name ∧
      default.resolve gates = default.resolve [unknown, foreign] ∧
      foreign.name ∉ default.names ∧
      default.resolve gates = default.resolve [unknown, repeated] := by
  intro unknown foreign repeated gates
  have member : ⟨"FederatedIngress", .alpha, true⟩ ∈ default.features := by decide
  have earlier : repeated.name ∈ [unknown, foreign].map FeatureGate.name := by decide
  have unregistered : foreign.name ∉ default.names := by decide
  obtain ⟨_, states, uncounted⟩ := resolve_by_first_gates default gates
  exact ⟨member, states _ member, earlier,
    uncounted [unknown, foreign] repeated [] rfl (.inl earlier), unregistered,
    uncounted [unknown] foreign [repeated] rfl (.inr unregistered)⟩

end FeatureRegistry

end FederationConfig
