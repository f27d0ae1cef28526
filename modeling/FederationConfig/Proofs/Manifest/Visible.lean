import FederationConfig.Proofs.Field.Visible
import FederationConfig.Proofs.Manifest.Legibility
import FederationConfig.Proofs.Text.Quoted

namespace FederationConfig

open Text (IsControl IsOf IsQuotable isPrintableAscii isVisible)

namespace Violation

/-- A text that is reported, with the field and the complaint in front of it. -/
def quotation (violation : Violation) (value : String) : String :=
  violation.field.render ++ ": " ++ violation.kind.label ++ ": \"" ++ Text.escape value ++ "\""

theorem IsLegible.render_of_text {registry : FeatureRegistry} {violation : Violation}
    (legible : violation.IsLegible registry) {value : String}
    (reported : violation.badValue = .text value) :
    ∃ back, violation.render = violation.quotation value ++ back := by
  have given : violation.kind ≠ .required := by
    intro missing
    cases legible with
    | required => cases reported
    | invalid | notSupported | duplicate => cases missing
  rw [render, if_neg given, reported]
  exact ⟨_, by simp only [quotation, FieldValue.render, String.append_assoc]; rfl⟩

end Violation

namespace Violations

theorem exists_render_eq {violations : Violations} {violation : Violation}
    (member : violation ∈ violations) :
    ∃ front back, violations.render = front ++ violation.render ++ back := by
  match violations, member with
  | [single], member =>
      rw [List.mem_singleton.mp member]
      exact ⟨"", "", by simp [render]⟩
  | first :: second :: later, member =>
      obtain ⟨front, back, joined⟩ :=
        Text.exists_intercalate_eq ", " (List.mem_map_of_mem (f := Violation.render) member)
      exact ⟨"[" ++ front, back ++ "]", by simp only [render, joined, String.append_assoc]⟩

theorem isOf_render {kind : Char → Prop} (visible : ∀ c, isVisible c → kind c)
    {violations : Violations} (all : ∀ violation ∈ violations, IsOf kind violation.render) :
    IsOf kind violations.render := by
  have plain {text : String} (shown : Text.IsVisible text) : IsOf kind text := shown.mono visible
  match violations with
  | [] => exact IsOf.empty kind
  | [single] => exact all single List.mem_cons_self
  | first :: second :: later =>
      have comma : IsOf kind ", " := plain (Text.isVisible_ofList rfl)
      have joined := comma.intercalate (List.forall_mem_map.mpr all)
      exact ((plain (Text.isVisible_ofList rfl)).append joined).append
        (plain (Text.isVisible_ofList rfl))

end Violations

namespace Manifest

/-- If the names of features are printable ASCII, so is all that is shown, but for the micro signs
of durations. A text that is reported is shown between two quotes, and all quotes inside are
escaped. -/
theorem render_violations_visible (policy : Policy)
    (registered : ∀ name ∈ policy.registry.names, ∀ c ∈ name.toList, isPrintableAscii c)
    (manifest : Manifest) :
    let violations := manifest.violations policy
    (∀ c ∈ violations.render.toList, isPrintableAscii c ∨ c = '\u00b5') ∧
      (∀ c ∈ violations.render.toList, ¬ IsControl c) ∧
      ∀ violation ∈ violations, ∀ value, violation.badValue = .text value →
        IsQuotable (Text.escape value).toList ∧
        ∃ front back, violations.render = front ++ violation.quotation value ++ back := by
  intro violations
  have legible := manifest.isLegible_violations policy
  have named : ∀ name ∈ policy.registry.names, IsOf (fun c => isVisible c) name :=
    fun name member c inside => Text.isVisible_of_isPrintableAscii (registered name member c inside)
  have shown : IsOf (fun c => isVisible c) violations.render :=
    Violations.isOf_render (fun _ => id) fun violation member =>
      (legible violation member).isOf_render (fun _ => id) named
  refine ⟨?_, ?_, ?_⟩
  · intro c member
    have visible : isVisible c := shown c member
    rwa [isVisible, Bool.or_eq_true, decide_eq_true_iff] at visible
  · intro c member
    exact Text.not_isControl_of_isVisible (shown c member)
  · intro violation member value reported
    obtain ⟨behind, own⟩ := (legible violation member).render_of_text reported
    obtain ⟨front, back, whole⟩ := Violations.exists_render_eq member
    refine ⟨Text.isQuotable_escape value, front, behind ++ back, ?_⟩
    rw [whole, own]
    simp only [String.append_assoc]

theorem render_violations_of_hostile_scope :
    let manifest : Manifest :=
      .operatorConfig { spec := { scope := .unrecognized "Cluster\"\nspec.scope: \u2028\\" } }
    (∀ name ∈ FeatureRegistry.default.names, ∀ c ∈ name.toList, isPrintableAscii c) ∧
      (∀ c ∈ (manifest.violations {}).render.toList, ¬ IsControl c) ∧
      ∃ front back, (manifest.violations {}).render = front ++
        "spec.scope: Unsupported value: \"Cluster\\\"\\nspec.scope: \\u\x7b2028\x7d\\\\\"" ++
          back := by
  intro manifest
  have printable : FeatureRegistry.default.names.all
      (fun name => name.toList.all isPrintableAscii) = true := by decide +kernel
  have registered : ∀ name ∈ FeatureRegistry.default.names, ∀ c ∈ name.toList,
      isPrintableAscii c := by simpa using printable
  obtain ⟨-, uncontrolled, quoted⟩ := render_violations_visible {} registered manifest
  have found : Violation.notSupported ⟨"spec", [.field "scope"]⟩
      (.text "Cluster\"\nspec.scope: \u2028\\") (Choice.names Scope) ∈ manifest.violations {} :=
    List.mem_cons_self
  exact ⟨registered, uncontrolled, (quoted _ found _ rfl).2⟩

end Manifest

end FederationConfig
