import FederationConfig.Manifest.Basic
import FederationConfig.Proofs.Record.Schemas

namespace FederationConfig

open Relation (ReflTransGen)

/-- Neither the order of keys, in whatever object, nor further keys in the objects of records change
whether a document is read, what is read of it, and what the rules find wrong with that. -/
theorem objects_read_however_arranged :
    (∀ json other : Json, ReflTransGen TypeConfig.schema.Restates json other →
      (TypeConfig.record.read json.toTree).toOption =
          (TypeConfig.record.read other.toTree).toOption ∧
        ∀ naming pass,
          (TypeConfig.record.read json.toTree).toOption.map (TypeConfig.violations naming pass) =
            (TypeConfig.record.read other.toTree).toOption.map
              (TypeConfig.violations naming pass)) ∧
    ∀ json other : Json, ReflTransGen OperatorConfig.schema.Restates json other →
      (OperatorConfig.record.read json.toTree).toOption =
          (OperatorConfig.record.read other.toTree).toOption ∧
        ∀ jitter registry,
          (OperatorConfig.record.read json.toTree).toOption.map
              (OperatorConfig.violations jitter registry) =
            (OperatorConfig.record.read other.toTree).toOption.map
              (OperatorConfig.violations jitter registry) := by
  constructor
  · intro json other steps
    have same := toOption_congr (TypeConfig.suits_schema.run steps)
    exact ⟨same, fun _ _ => by rw [same]⟩
  · intro json other steps
    have same := toOption_congr (OperatorConfig.suits_schema.run steps)
    exact ⟨same, fun _ _ => by rw [same]⟩

theorem objects_read_rearranged :
    (let metadata : String × Json := ("metadata", .list [.text "pods"])
      let kind : String × Json := ("kind", .text "Pod")
      let spec (target : List (String × Json)) : String × Json :=
        ("spec", .object [("targetType", .object target)])
      let config : TypeConfig :=
        { metadata := { name := "pods" }, spec := { targetType := { kind := "Pod" } } }
      ReflTransGen TypeConfig.schema.Restates (.object [metadata, spec [kind]])
          (.object [spec [("shortNames", .list []), kind], metadata]) ∧
        (TypeConfig.record.read (Json.object [spec [("shortNames", .list []), kind],
          metadata]).toTree).toOption = some config) ∧
      (let first : Json := .object [("name", .text "first")]
        let name : String × Json := ("name", .text "second")
        let configuration : String × Json := ("configuration", .text "Disabled")
        let document (gate : List (String × Json)) : Json :=
          .object [("spec", .object [("featureGates", .list [first, .object gate])])]
        let config : OperatorConfig :=
          { spec := { featureGates := [{ name := "first" }, ⟨"second", .known .disabled⟩] } }
        ReflTransGen OperatorConfig.schema.Restates (document [name, configuration])
            (document [configuration, name]) ∧
          (OperatorConfig.record.read (document [configuration, name]).toTree).toOption =
            some config) := by
  constructor
  · intro metadata kind spec config
    have target : ResourceType.schema.Restates (.object [kind])
        (.object [("shortNames", .list []), kind]) :=
      @Schema.Restates.extend _ [] [kind] "shortNames" _ (by decide)
    have further : TypeConfig.schema.Restates (.object [metadata, spec [kind]])
        (.object [metadata, spec [("shortNames", .list []), kind]]) :=
      @Schema.Restates.entry _ [metadata] [] "spec" _ _
        (@Schema.Restates.entry TypeConfigSpec.schema [] [] "targetType" _ _ target)
    have steps := ReflTransGen.tail (.single further)
      (.reorder (List.Perm.swap (spec [("shortNames", .list []), kind]) metadata []))
    have read : (TypeConfig.record.read (Json.object [metadata, spec [kind]]).toTree).toOption =
        some config := rfl
    exact ⟨steps, (objects_read_however_arranged.1 _ _ steps).1 ▸ read⟩
  · intro first name configuration document config
    have gate : FeatureGate.schema.Restates (.object [name, configuration])
        (.object [configuration, name]) := .reorder (List.Perm.swap configuration name [])
    have gates : OperatorSpec.schema.Restates
        (.object [("featureGates", .list [first, .object [name, configuration]])])
        (.object [("featureGates", .list [first, .object [configuration, name]])]) :=
      @Schema.Restates.entry _ [] [] "featureGates" _ _
        (@Schema.Restates.item (.list FeatureGate.schema) [first] [] _ _ gate)
    have steps := ReflTransGen.single (r := OperatorConfig.schema.Restates)
      (@Schema.Restates.entry _ [] [] "spec" _ _ gates)
    have read : (OperatorConfig.record.read (document [name, configuration]).toTree).toOption =
        some config := rfl
    exact ⟨steps, (objects_read_however_arranged.2 _ _ steps).1 ▸ read⟩

end FederationConfig
