import FederationConfig.Proofs.Field.Legibility
import FederationConfig.Proofs.Text.Ending

namespace FederationConfig

open Text (EndsUnlike)

namespace Dns

theorem endsUnlike_tooLong (limit : Nat) : EndsUnlike 'd' (tooLong limit) :=
  (EndsUnlike.ofList rfl (by decide)).append _

theorem endsUnlike_subdomainSyntax : EndsUnlike 'd' subdomainSyntax :=
  (EndsUnlike.ofList rfl (by decide)).append _

theorem endsUnlike_labelSyntax : EndsUnlike 'd' labelSyntax :=
  (EndsUnlike.ofList rfl (by decide)).append _

theorem endsUnlike_of_mem_problems {long malformed : Prop} [Decidable long] [Decidable malformed]
    {limit : Nat} {rule problem : String} (unlike : EndsUnlike 'd' rule)
    (member : problem ∈ (if long then [tooLong limit] else []) ++
      (if malformed then [] else [rule])) : EndsUnlike 'd' problem := by
  rcases List.mem_append.mp member with front | back
  · split at front
    · rw [List.mem_singleton.mp front]
      exact endsUnlike_tooLong limit
    · cases front
  · split at back
    · cases back
    · rw [List.mem_singleton.mp back]
      exact unlike

theorem endsUnlike_of_intercalate {problems : List String}
    (unlike : ∀ problem ∈ problems, EndsUnlike 'd' problem)
    (given : ",".intercalate problems ≠ "") : EndsUnlike 'd' (",".intercalate problems) := by
  refine EndsUnlike.intercalate "," ?_ unlike
  rintro rfl
  exact given String.intercalate_nil

end Dns

theorem FieldType.endsUnlike_details {type : FieldType} {value : FieldValue} :
    ∀ detail ∈ type.details value, detail ≠ "" → EndsUnlike 'd' detail := by
  have greater : EndsUnlike 'd' Check.greaterThanZero := .ofList rfl (by decide)
  have single {detail : String} (unlike : detail ≠ "" → EndsUnlike 'd' detail) :
      ∀ other ∈ [detail], other ≠ "" → EndsUnlike 'd' other :=
    List.forall_mem_singleton.mpr unlike
  unfold details
  split
  · exact single fun _ => greater
  · exact single fun _ => .ofList rfl (by decide)
  · exact single fun _ => greater
  · exact List.forall_mem_cons.mpr ⟨fun _ => greater, single fun _ => .ofList rfl (by decide)⟩
  · exact List.forall_mem_cons.mpr ⟨fun _ => greater, single fun _ => .ofList rfl (by decide)⟩
  · exact List.forall_mem_cons.mpr ⟨fun _ => .ofList rfl (by decide),
      single (Dns.endsUnlike_of_intercalate
        fun _ => Dns.endsUnlike_of_mem_problems Dns.endsUnlike_subdomainSyntax)⟩
  · exact single (Dns.endsUnlike_of_intercalate
      fun _ => Dns.endsUnlike_of_mem_problems Dns.endsUnlike_labelSyntax)
  · exact single fun _ => .ofList rfl (by decide)
  · exact fun _ member => nomatch member

namespace Violation

variable {violation : Violation}

theorem endsUnlike_render_of_detail (unlike : EndsUnlike 'd' violation.detail) :
    EndsUnlike 'd' violation.render := by
  have given : violation.detail ≠ "" := by
    intro none
    obtain ⟨last, ends, -⟩ := unlike
    rw [none] at ends
    cases ends
  rw [render, if_neg given]
  exact (unlike.append _).append _

theorem endsUnlike_render_of_text {value : String} (given : violation.kind ≠ .required)
    (reported : violation.badValue = .text value) (silent : violation.detail = "") :
    EndsUnlike 'd' violation.render := by
  have quote : EndsUnlike 'd' "\"" := .ofList rfl (by decide)
  rw [render, if_neg given, if_pos silent, reported, String.append_empty]
  exact ((quote.append _).append _).append _

theorem endsUnlike_supportedDetail {names : List String} (given : names ≠ []) :
    EndsUnlike 'd' (supportedDetail names) := by
  have quote : EndsUnlike 'd' "\"" := .ofList rfl (by decide)
  rw [supportedDetail, if_neg given]
  refine EndsUnlike.append _ (.intercalate _ ?_ (List.forall_mem_map.mpr fun name _ => ?_))
  · exact fun none => given (List.map_eq_nil_iff.mp none)
  · exact quote.append _

theorem IsLegible.endsUnlike_render {registry : FeatureRegistry}
    (legible : violation.IsLegible registry) : EndsUnlike 'd' violation.render := by
  cases legible with
  | required =>
      have label : EndsUnlike 'd' (ViolationKind.label .required) := .ofList rfl (by decide)
      show EndsUnlike 'd' (_ ++ "" ++ "")
      rw [String.append_empty, String.append_empty]
      exact label.append _
  | invalid plain given known =>
      exact endsUnlike_render_of_detail (FieldType.endsUnlike_details _ known given)
  | @notSupported path text names plain offered =>
      by_cases none : names = []
      · subst none
        exact endsUnlike_render_of_text (fun missing => nomatch missing) rfl rfl
      · exact endsUnlike_render_of_detail (endsUnlike_supportedDetail none)
  | duplicate plain => exact endsUnlike_render_of_text (fun missing => nomatch missing) rfl rfl

end Violation

end FederationConfig
