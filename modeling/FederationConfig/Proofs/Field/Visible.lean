import FederationConfig.Proofs.Field.Legibility
import FederationConfig.Proofs.Text.Visible

namespace FederationConfig

open Text (IsOf isVisible isVisible_of_isPrintableAscii isPrintableAscii_of_isDigit
  isPrintableAscii_of_isAlpha)

def Text.IsVisible (text : String) : Prop := IsOf (fun c => isVisible c) text

open Text (IsVisible)

theorem Text.isVisible_ofList {chars : List Char} (all : chars.all isVisible) :
    IsVisible (String.ofList chars) := by
  rw [Text.IsVisible, IsOf, String.toList_ofList]
  exact List.all_eq_true.mp all

theorem FieldPath.isVisible_of_isPathChar {c : Char} (inside : isPathChar c) : isVisible c := by
  apply isVisible_of_isPrintableAscii
  rw [isPathChar, Bool.or_eq_true, Bool.or_eq_true] at inside
  rcases inside with (letter | digit) | mark
  · exact isPrintableAscii_of_isAlpha letter
  · exact isPrintableAscii_of_isDigit digit
  · have all : ∀ c ∈ ['.', '[', ']'], Text.isPrintableAscii c := List.all_eq_true.mp rfl
    exact all c (List.contains_iff_mem.mp mark)

theorem FieldPath.IsPlain.isVisible_render {path : FieldPath} (plain : path.IsPlain) :
    IsVisible path.render :=
  fun c member => isVisible_of_isPathChar (plain.isPathChar_of_mem_render c member)

theorem Duration.isVisible_render (duration : Duration) : IsVisible duration.render := by
  intro c member
  have inside := duration.isTextChar_of_mem_render c member
  rw [isTextChar, Bool.or_eq_true] at inside
  rcases inside with digit | mark
  · exact isVisible_of_isPrintableAscii (isPrintableAscii_of_isDigit digit)
  · have all : ∀ c ∈ ['-', '.', 'n', 's', '\u00b5', 'm', 'h'], isVisible c :=
      List.all_eq_true.mp rfl
    exact all c (List.contains_iff_mem.mp mark)

theorem Text.isVisible_repr (value : Int) : IsVisible value.repr := by
  intro c member
  rcases digit_or_minus_of_mem_repr member with digit | rfl
  · exact isVisible_of_isPrintableAscii (isPrintableAscii_of_isDigit digit)
  · rfl

theorem Text.isVisible_repr_nat (n : Nat) : IsVisible n.repr := by
  intro c member
  rw [Nat.toList_repr] at member
  have digit := isDigit_of_mem_toDigits n c member
  exact isVisible_of_isPrintableAscii (isPrintableAscii_of_isDigit digit)

theorem FieldValue.isVisible_render (value : FieldValue) : IsVisible value.render := by
  have quote : IsVisible "\"" := Text.isVisible_ofList rfl
  cases value with
  | omitted => exact Text.isVisible_ofList rfl
  | text value => exact (quote.append (Text.isOf_escape value)).append quote
  | integer value => exact Text.isVisible_repr value.toInt
  | duration value => exact (quote.append value.isVisible_render).append quote

theorem ViolationKind.isVisible_label (kind : ViolationKind) : IsVisible kind.label := by
  cases kind <;> exact Text.isVisible_ofList rfl

namespace Dns

theorem isVisible_tooLong (limit : Nat) : IsVisible (tooLong limit) := by
  have before : IsVisible "must be no more than " := Text.isVisible_ofList rfl
  have after : IsVisible " characters" := Text.isVisible_ofList rfl
  exact (before.append (Text.isVisible_repr_nat limit)).append after

theorem isVisible_subdomainSyntax : IsVisible subdomainSyntax := by
  unfold subdomainSyntax
  iterate 4 apply IsOf.append
  all_goals exact Text.isVisible_ofList rfl

theorem isVisible_labelSyntax : IsVisible labelSyntax := by
  unfold labelSyntax
  iterate 4 apply IsOf.append
  all_goals exact Text.isVisible_ofList rfl

theorem isVisible_of_mem_problems {long malformed : Prop} [Decidable long] [Decidable malformed]
    {limit : Nat} {rule problem : String} (visible : IsVisible rule)
    (member : problem ∈ (if long then [tooLong limit] else []) ++
      (if malformed then [] else [rule])) : IsVisible problem := by
  rcases List.mem_append.mp member with front | back
  · split at front
    · rw [List.mem_singleton.mp front]
      exact isVisible_tooLong limit
    · cases front
  · split at back
    · cases back
    · rw [List.mem_singleton.mp back]
      exact visible

end Dns

namespace FieldType

theorem isVisible_details {type : FieldType} {value : FieldValue} :
    ∀ detail ∈ type.details value, IsVisible detail := by
  have comma : IsVisible "," := Text.isVisible_ofList rfl
  have greater : IsVisible Check.greaterThanZero := Text.isVisible_ofList rfl
  have single {detail : String} (visible : IsVisible detail) :
      ∀ other ∈ [detail], IsVisible other :=
    List.forall_mem_singleton.mpr visible
  unfold details
  split
  · exact single greater
  · exact single (Text.isVisible_ofList rfl)
  · exact single greater
  · exact List.forall_mem_cons.mpr ⟨greater, single (Text.isVisible_ofList rfl)⟩
  · exact List.forall_mem_cons.mpr ⟨greater, single (Text.isVisible_ofList rfl)⟩
  · exact List.forall_mem_cons.mpr ⟨Text.isVisible_ofList rfl, single (comma.intercalate
      fun _ => Dns.isVisible_of_mem_problems Dns.isVisible_subdomainSyntax)⟩
  · exact single (comma.intercalate
      fun _ => Dns.isVisible_of_mem_problems Dns.isVisible_labelSyntax)
  · exact single (Text.isVisible_ofList rfl)
  · exact fun _ member => nomatch member

variable {registry : FeatureRegistry} {kind : Char → Prop}

theorem isOf_names (visible : ∀ c, isVisible c → kind c)
    (registered : ∀ name ∈ registry.names, IsOf kind name) {field : String} {names : List String}
    (offered : ofName registry field = .choice names) : ∀ name ∈ names, IsOf kind name := by
  have closed {names : List String} (all : names.all fun name => name.toList.all isVisible) :
      ∀ name ∈ names, IsOf kind name := fun name member c inside =>
    visible c (List.all_eq_true.mp (List.all_eq_true.mp all name member) c inside)
  unfold ofName at offered
  split at offered
  all_goals cases offered
  case h_1 => exact registered
  all_goals exact closed rfl

end FieldType

namespace Violation

variable {registry : FeatureRegistry} {kind : Char → Prop}

theorem isOf_supportedDetail (visible : ∀ c, isVisible c → kind c) {names : List String}
    (all : ∀ name ∈ names, IsOf kind name) : IsOf kind (supportedDetail names) := by
  have plain {text : String} (shown : IsVisible text) : IsOf kind text := shown.mono visible
  have quote : IsOf kind "\"" := plain (Text.isVisible_ofList rfl)
  have quoted : ∀ part ∈ names.map fun name => "\"" ++ name ++ "\"", IsOf kind part := by
    intro part member
    obtain ⟨name, offered, rfl⟩ := List.mem_map.mp member
    exact (quote.append (all name offered)).append quote
  rw [supportedDetail]
  split
  · exact IsOf.empty kind
  · exact (plain (Text.isVisible_ofList rfl)).append
      ((plain (Text.isVisible_ofList rfl)).intercalate quoted)

theorem IsLegible.isOf_detail (visible : ∀ c, isVisible c → kind c)
    (registered : ∀ name ∈ registry.names, IsOf kind name) {violation : Violation}
    (legible : violation.IsLegible registry) : IsOf kind violation.detail := by
  cases legible with
  | required => exact IsOf.empty kind
  | invalid _ _ known => exact (FieldType.isVisible_details _ known).mono visible
  | @notSupported path text names plain offered =>
      apply isOf_supportedDetail visible
      rw [FieldPath.type] at offered
      split at offered
      · exact FieldType.isOf_names visible registered offered
      · cases offered
  | duplicate => exact IsOf.empty kind

/-- A text is of a kind that all visible characters are of, if the names of features are. -/
theorem IsLegible.isOf_render (visible : ∀ c, isVisible c → kind c)
    (registered : ∀ name ∈ registry.names, IsOf kind name) {violation : Violation}
    (legible : violation.IsLegible registry) : IsOf kind violation.render := by
  have plain {text : String} (shown : IsVisible text) : IsOf kind text := shown.mono visible
  have colon : IsOf kind ": " := plain (Text.isVisible_ofList rfl)
  have field := plain legible.plain.isVisible_render
  have label := plain violation.kind.isVisible_label
  have value := plain violation.badValue.isVisible_render
  have detail := legible.isOf_detail visible registered
  rw [render]
  apply IsOf.append
  · apply ((field.append colon).append label).append
    split
    · exact IsOf.empty kind
    · exact colon.append value
  · split
    · exact IsOf.empty kind
    · exact colon.append detail

end Violation

end FederationConfig
