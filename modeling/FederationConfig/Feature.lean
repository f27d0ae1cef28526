import FederationConfig.Choice

namespace FederationConfig

inductive FeatureStage where
  | alpha
  | beta
  | generalAvailability
  deriving DecidableEq, Repr

def FeatureStage.name : FeatureStage → String
  | alpha => "Alpha"
  | beta => "Beta"
  | generalAvailability => "GA"

structure Feature where
  name : String
  stage : FeatureStage
  enabledByDefault : Bool
  deriving DecidableEq, Repr

structure FeatureGate where
  name : String := ""
  configuration : Setting Toggle := .missing
  deriving DecidableEq, Repr, Inhabited

def Feature.firstOfEachName : List Feature → List Feature
  | [] => []
  | feature :: rest =>
    feature :: (Feature.firstOfEachName rest).filter fun other => other.name ≠ feature.name

theorem Feature.nodup_firstOfEachName (features : List Feature) :
    ((Feature.firstOfEachName features).map Feature.name).Nodup := by
  induction features with
  | nil => exact List.nodup_nil
  | cons feature rest ih =>
    simp only [Feature.firstOfEachName, List.map_cons, List.nodup_cons]
    constructor
    · simp only [List.mem_map, List.mem_filter, decide_eq_true_eq]
      rintro ⟨other, ⟨_, differs⟩, same⟩
      exact differs same
    · exact ih.sublist (List.filter_sublist.map Feature.name)

structure FeatureRegistry where
  features : List Feature
  nodup : (features.map Feature.name).Nodup

namespace FeatureRegistry

def ofList (features : List Feature) : FeatureRegistry :=
  ⟨Feature.firstOfEachName features, Feature.nodup_firstOfEachName features⟩

def default : FeatureRegistry := ofList [
  ⟨"PushReconciler", .beta, true⟩,
  ⟨"SchedulerPreferences", .alpha, true⟩,
  ⟨"CrossClusterServiceDiscovery", .alpha, true⟩,
  ⟨"FederatedIngress", .alpha, true⟩]

instance : Inhabited FeatureRegistry := ⟨default⟩

def names (registry : FeatureRegistry) : List String := registry.features.map Feature.name

def contains (registry : FeatureRegistry) (name : String) : Bool :=
  registry.features.any fun feature => feature.name = name

/-- The state of each feature, and the names that a gate has decided so far. -/
structure Resolution where
  decided : List String
  states : List (String × Bool)

/-- Only the first gate of a name counts, whatever its configuration. -/
def Resolution.apply (resolution : Resolution) (gate : FeatureGate) : Resolution :=
  if gate.name ∈ resolution.decided then resolution
  else
    { decided := gate.name :: resolution.decided
      states := match gate.configuration.known? with
        | none => resolution.states
        | some toggle => resolution.states.map fun (name, enabled) =>
          (name, if name = gate.name then toggle = .enabled else enabled) }

def resolve (registry : FeatureRegistry) (gates : List FeatureGate) : List (String × Bool) :=
  (gates.foldl Resolution.apply
    ⟨[], registry.features.map fun feature => (feature.name, feature.enabledByDefault)⟩).states

end FeatureRegistry

end FederationConfig
