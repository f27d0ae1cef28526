import FederationConfig.Proofs.Record.Layouts

namespace FederationConfig

/-- An object that is read is read without any known field as well, at any depth, and then has the
default there and nowhere else; and with any text or null in place of a setting. -/
theorem objects_read_without_known_fields :
    (∀ (json : Json) (config : TypeConfig), TypeConfig.record.read json.toTree = .ok config →
      ∀ field, TypeConfig.layout.Known field → json.at? field.path ≠ none →
        TypeConfig.record.read (json.erase field.path).toTree = .ok (field.omitted config) ∧
          ∀ chosen ∈ field.chosen?,
            (∀ text, TypeConfig.record.read (json.put field.path (.text text)).toTree =
              .ok (chosen (some text) config)) ∧
            TypeConfig.record.read (json.put field.path .null).toTree =
              .ok (chosen none config)) ∧
    ∀ (json : Json) (config : OperatorConfig), OperatorConfig.record.read json.toTree = .ok config →
      ∀ field, OperatorConfig.layout.Known field → json.at? field.path ≠ none →
        OperatorConfig.record.read (json.erase field.path).toTree = .ok (field.omitted config) ∧
          ∀ chosen ∈ field.chosen?,
            (∀ text, OperatorConfig.record.read (json.put field.path (.text text)).toTree =
              .ok (chosen (some text) config)) ∧
            OperatorConfig.record.read (json.put field.path .null).toTree =
              .ok (chosen none config) :=
  ⟨fun _ _ read _ known present => TypeConfig.layout.read_amended read known present,
    fun _ _ read _ known present => OperatorConfig.layout.read_amended read known present⟩

theorem objects_read_with_other_settings :
    (let json (scope : List (String × Json)) : Json := .object [("spec", .object [
        ("statusType", .object ([("kind", .text "Pod")] ++ scope)),
        ("propagation", .text "Enabled")])]
      let config (scope : Setting Scope) : TypeConfig := {
        spec := {
          statusType := some { kind := "Pod", scope := scope }
          propagation := .known .enabled } }
      TypeConfig.record.read (json [("scope", .text "Namespace")]).toTree =
          .ok (config (.known .namespaced)) ∧
        TypeConfig.record.read (json []).toTree = .ok (config .missing) ∧
        TypeConfig.record.read (json [("scope", .text "Local")]).toTree =
          .ok (config (.unrecognized "Local"))) ∧
      (let json (configuration : Json) : Json := .object [("spec", .object [
          ("featureGates", .list [.object [("name", .text "first")],
            .object [("configuration", configuration), ("name", .text "second")]])])]
        let config (configuration : Setting Toggle) : OperatorConfig := {
          spec := { featureGates := [{ name := "first" }, ⟨"second", configuration⟩] } }
        OperatorConfig.record.read (json (.text "Disabled")).toTree =
            .ok (config (.known .disabled)) ∧
          OperatorConfig.record.read (json (.text "disabled")).toTree =
            .ok (config (.unrecognized "disabled")) ∧
          OperatorConfig.record.read (json .null).toTree = .ok (config .missing)) := by
  constructor
  · intro json config
    have read : TypeConfig.record.read (json [("scope", .text "Namespace")]).toTree =
        .ok (config (.known .namespaced)) := rfl
    have scope : ResourceType.layout.Known _ := .own (List.mem_of_getElem? (i := 4) rfl)
    have statusType : TypeConfigSpec.layout.Known _ :=
      .within (.key (List.mem_of_getElem? (i := 2) rfl)) ⟨_, scope, rfl⟩
    have known : TypeConfig.layout.Known _ :=
      .within (.key (List.mem_of_getElem? (i := 2) rfl)) statusType
    obtain ⟨erased, put⟩ := objects_read_without_known_fields.1 _ _ read _ known
      (fun absent => nomatch absent)
    exact ⟨read, erased, (put _ rfl).1 "Local"⟩
  · intro json config
    have read : OperatorConfig.record.read (json (.text "Disabled")).toTree =
        .ok (config (.known .disabled)) := rfl
    have configuration : FeatureGate.layout.Known _ := .own (List.mem_of_getElem? (i := 1) rfl)
    have gates : OperatorSpec.layout.Known _ :=
      .within (.key (List.mem_of_getElem? (i := 3) rfl)) ⟨1, _, configuration, rfl⟩
    have known : OperatorConfig.layout.Known _ :=
      .within (.key (List.mem_of_getElem? (i := 2) rfl)) gates
    obtain ⟨-, put⟩ := objects_read_without_known_fields.2 _ _ read _ known
      (fun absent => nomatch absent)
    exact ⟨read, (put _ rfl).1 "disabled", (put _ rfl).2⟩

end FederationConfig
