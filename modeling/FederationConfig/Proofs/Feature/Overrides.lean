import FederationConfig.Proofs.Feature.Resolution
import FederationConfig.Proofs.Rule

/-!
Gates that override a default, and gates that could not. A gate of a name that is not registered
might as well be left out. A gate whose configuration is not known does not override anything
itself, but masks the gates of its name behind it.
-/

namespace FederationConfig

open FeatureGate (firstOf?)

namespace FeatureGate

theorem firstOf?_filter {keep : FeatureGate → Bool} {name : String}
    (kept : ∀ gate : FeatureGate, gate.name = name → keep gate) (gates : List FeatureGate) :
    firstOf? (gates.filter keep) name = firstOf? gates name := by
  rw [firstOf?, firstOf?, List.find?_filter]
  congr 1
  funext gate
  by_cases named : gate.name = name
  · simp [named, kept gate named]
  · simp [named]

def firstKnownOf? (gates : List FeatureGate) (name : String) : Option FeatureGate :=
  firstOf? (gates.filter fun gate => gate.configuration.isKnown) name

theorem firstKnownOf?_of_known {gates : List FeatureGate} {name : String} {gate : FeatureGate}
    (first : firstOf? gates name = some gate) (known : gate.configuration.isKnown) :
    firstKnownOf? gates name = some gate := by
  obtain ⟨named, front, back, rfl, others⟩ := List.find?_eq_some_iff_append.mp first
  rw [firstKnownOf?, firstOf?, List.find?_filter, List.find?_eq_some_iff_append]
  refine ⟨by simpa [known] using named, front, back, rfl, ?_⟩
  intro other member
  have unnamed := others other member
  simp_all

theorem firstKnownOf?_of_absent {gates : List FeatureGate} {name : String}
    (absent : firstOf? gates name = none) : firstKnownOf? gates name = none := by
  simp_all [firstOf?, firstKnownOf?]

end FeatureGate

open FeatureGate (firstOf?_filter firstKnownOf? firstKnownOf?_of_known firstKnownOf?_of_absent)

namespace FeatureRegistry

/-- The gates of registered names whose configuration is known. -/
def validGates (registry : FeatureRegistry) (gates : List FeatureGate) : List FeatureGate :=
  gates.filter fun gate => gate.name ∈ registry.names ∧ gate.configuration.isKnown

theorem validGates_eq (registry : FeatureRegistry) (gates : List FeatureGate) :
    registry.validGates gates =
      (gates.filter fun gate => gate.configuration.isKnown).filter fun gate =>
        gate.name ∈ registry.names := by
  simp [validGates, List.filter_filter]

theorem firstOf?_validGates {registry : FeatureRegistry} {name : String}
    (registered : name ∈ registry.names) (gates : List FeatureGate) :
    firstOf? (registry.validGates gates) name = firstKnownOf? gates name := by
  rw [validGates_eq, firstKnownOf?]
  apply firstOf?_filter
  rintro gate rfl
  exact decide_eq_true registered

theorem resolve_registered (registry : FeatureRegistry) (gates : List FeatureGate) :
    registry.resolve (gates.filter fun gate => gate.name ∈ registry.names) =
      registry.resolve gates := by
  apply resolve_congr
  intro name registered
  apply firstOf?_filter
  rintro gate rfl
  exact decide_eq_true registered

end FeatureRegistry

namespace Feature

/-- The first gate of a feature says nothing that is known, while the first one that does would
override the default. -/
def IsMasked (feature : Feature) (gates : List FeatureGate) : Prop :=
  (∃ first ∈ firstOf? gates feature.name, ¬ first.configuration.isKnown) ∧
    ∃ later ∈ firstKnownOf? gates feature.name, ∃ toggle ∈ later.configuration.known?,
      decide (toggle = Toggle.enabled) ≠ feature.enabledByDefault

instance (feature : Feature) (gates : List FeatureGate) : Decidable (feature.IsMasked gates) :=
  inferInstanceAs (Decidable (_ ∧ _))

theorem stateUnder_of_unknown {feature : Feature} {gates : List FeatureGate} {first : FeatureGate}
    (found : firstOf? gates feature.name = some first) (unknown : ¬ first.configuration.isKnown) :
    feature.stateUnder gates = feature.enabledByDefault := by
  rw [stateUnder, found]
  cases given : first.configuration with
  | missing => simp [given]
  | known toggle => exact absurd (by rw [given]; rfl) unknown
  | unrecognized text => simp [given]

theorem stateUnder_validGates_ne_iff {registry : FeatureRegistry} {feature : Feature}
    (member : feature ∈ registry.features) (gates : List FeatureGate) :
    feature.stateUnder (registry.validGates gates) ≠ feature.stateUnder gates ↔
      feature.IsMasked gates := by
  have registered : feature.name ∈ registry.names := List.mem_map_of_mem member
  have valid := FeatureRegistry.firstOf?_validGates registered gates
  cases first : firstOf? gates feature.name with
  | none =>
      have same := stateUnder_congr
        (valid.trans ((firstKnownOf?_of_absent first).trans first.symm))
      exact iff_of_false (not_not_intro same) (by simp [IsMasked, first])
  | some gate =>
      by_cases known : gate.configuration.isKnown
      · have same := stateUnder_congr
          (valid.trans ((firstKnownOf?_of_known first known).trans first.symm))
        exact iff_of_false (not_not_intro same) (by simp [IsMasked, first, known])
      · rw [stateUnder_of_unknown first known, stateUnder, valid]
        cases later : firstKnownOf? gates feature.name with
        | none => simp [IsMasked, later]
        | some gate =>
            cases given : gate.configuration <;>
              simp [IsMasked, first, known, later, given, Setting.known?]

end Feature

namespace FeatureRegistry

/-- Leaving out the gates of names that are not registered changes nothing. Leaving out those
whose configuration is not known as well changes the features that such a gate masks, and no
others. -/
theorem resolve_validGates (registry : FeatureRegistry) (gates : List FeatureGate) :
    registry.resolve (gates.filter fun gate => gate.name ∈ registry.names) =
        registry.resolve gates ∧
      (∀ feature ∈ registry.features,
        (registry.resolve (registry.validGates gates)).lookup feature.name ≠
            (registry.resolve gates).lookup feature.name ↔
          feature.IsMasked gates) ∧
      (registry.resolve (registry.validGates gates) = registry.resolve gates ↔
        ∀ feature ∈ registry.features, ¬ feature.IsMasked gates) := by
  refine ⟨registry.resolve_registered gates, ?_, ?_⟩
  · intro feature member
    rw [registry.lookup_resolve _ member, registry.lookup_resolve _ member, Ne,
      Option.some_inj]
    exact Feature.stateUnder_validGates_ne_iff member gates
  · rw [resolve_eq_iff]
    constructor
    · intro same feature member masked
      exact (Feature.stateUnder_validGates_ne_iff member gates).mpr masked (same feature member)
    · intro unmasked feature member
      by_contra differs
      exact unmasked feature member
        ((Feature.stateUnder_validGates_ne_iff member gates).mp differs)

theorem resolve_validGates_of_default :
    let gates : List FeatureGate := [⟨"FederatedIngress", .missing⟩,
      ⟨"FederatedIngress", .known .enabled⟩, ⟨"Ingress", .known .disabled⟩]
    (∀ feature ∈ default.features, ¬ feature.IsMasked gates) ∧
      default.validGates gates = [⟨"FederatedIngress", .known .enabled⟩] ∧
      default.resolve (default.validGates gates) = default.resolve gates := by
  intro gates
  have unmasked : ∀ feature ∈ default.features, ¬ feature.IsMasked gates := by decide
  exact ⟨unmasked, by decide, (resolve_validGates default gates).2.2.mpr unmasked⟩

/-- A gate whose configuration is not known keeps the gate behind it from having an effect. -/
theorem unknown_gate_masks_override :
    let gates : List FeatureGate :=
      [⟨"PushReconciler", .unrecognized "Sometimes"⟩, ⟨"PushReconciler", .known .disabled⟩]
    default.validGates gates = [⟨"PushReconciler", .known .disabled⟩] ∧
      (default.resolve (default.validGates gates)).lookup "PushReconciler" = some false ∧
      (default.resolve gates).lookup "PushReconciler" = some true ∧
      ¬ ∀ (registry : FeatureRegistry) (gates : List FeatureGate),
        registry.resolve (registry.validGates gates) = registry.resolve gates := by
  intro gates
  refine ⟨by decide, by decide, by decide, ?_⟩
  intro unchanged
  exact absurd (unchanged default gates) (by decide)

end FeatureRegistry

end FederationConfig
