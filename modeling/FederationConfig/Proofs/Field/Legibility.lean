import FederationConfig.OperatorConfig.Rules
import FederationConfig.Proofs.Duration.RoundTrip
import FederationConfig.Proofs.Field.Path
import FederationConfig.Proofs.Text.Escape
import FederationConfig.TypeConfig.Rules

/-!
Violations and their texts. What a field holds and what a check can say of it follow from the
path to the field, and with that the text of a violation tells what the violation is and where it
ends, whatever stands behind it.
-/

namespace FederationConfig

open Text (Begins append_delimiter_inj)

inductive ValueSort where
  | none
  | text
  | integer
  | duration
  deriving DecidableEq

namespace FieldValue

def sort : FieldValue → ValueSort
  | omitted => .none
  | text _ => .text
  | integer _ => .integer
  | duration _ => .duration

theorem toList_render_text (value : String) :
    (text value).render.toList = '"' :: ((Text.escape value).toList ++ ['"']) := by
  simp only [render, String.toList_append]
  rfl

theorem toList_render_duration (value : Duration) :
    (duration value).render.toList = '"' :: (value.render.toList ++ ['"']) := by
  simp only [render, String.toList_append]
  rfl

variable {back rest : List Char}

theorem text_append_inj {first second : String}
    (same : (text first).render.toList ++ back = (text second).render.toList ++ rest) :
    first = second ∧ back = rest := by
  rw [toList_render_text, toList_render_text, List.cons_append, List.cons_append,
    List.append_assoc, List.append_assoc] at same
  exact Text.escape_append_quote_inj (List.cons.inj same).2

theorem quote_not_mem_render (value : Duration) : '"' ∉ value.render.toList :=
  fun member => nomatch Duration.isTextChar_of_mem_render value '"' member

theorem duration_append_inj {first second : Duration}
    (same : (duration first).render.toList ++ back = (duration second).render.toList ++ rest) :
    first = second ∧ back = rest := by
  rw [toList_render_duration, toList_render_duration, List.cons_append, List.cons_append,
    List.append_assoc, List.append_assoc] at same
  obtain ⟨texts, tails⟩ := append_delimiter_inj (quote_not_mem_render first)
    (quote_not_mem_render second) (List.cons.inj same).2
  exact ⟨Duration.render_inj (String.toList_inj.mp texts), tails⟩

theorem colon_not_mem_render (value : Int64) : ':' ∉ (integer value).render.toList := by
  intro member
  rcases Text.digit_or_minus_of_mem_repr member with digit | minus
  · cases digit
  · cases minus

theorem integer_append_inj {first second : Int64}
    (same : (integer first).render.toList ++ ':' :: back =
      (integer second).render.toList ++ ':' :: rest) : first = second ∧ back = rest := by
  obtain ⟨texts, tails⟩ := append_delimiter_inj (colon_not_mem_render first)
    (colon_not_mem_render second) same
  exact ⟨Int64.toInt_inj.mp (Text.repr_int_inj texts), tails⟩

theorem render_append_inj {first second : FieldValue} (sorts : first.sort = second.sort)
    (same : first.render.toList ++ ':' :: back = second.render.toList ++ ':' :: rest) :
    first = second ∧ back = rest := by
  cases first with
  | omitted =>
      cases second with
      | omitted => exact ⟨rfl, (List.cons.inj (List.append_cancel_left same)).2⟩
      | text | integer | duration => cases sorts
  | text value =>
      cases second with
      | text other =>
          obtain ⟨values, tails⟩ := text_append_inj same
          exact ⟨congrArg text values, (List.cons.inj tails).2⟩
      | omitted | integer | duration => cases sorts
  | integer value =>
      cases second with
      | integer other =>
          obtain ⟨values, tails⟩ := integer_append_inj same
          exact ⟨congrArg integer values, tails⟩
      | omitted | text | duration => cases sorts
  | duration value =>
      cases second with
      | duration other =>
          obtain ⟨values, tails⟩ := duration_append_inj same
          exact ⟨congrArg duration values, (List.cons.inj tails).2⟩
      | omitted | text | integer => cases sorts

end FieldValue

namespace Dns

theorem begins_tooLong (limit : Nat) : Begins 'm' (tooLong limit) := by
  unfold tooLong
  exact ((Begins.ofList _ _).append _).append _

theorem begins_subdomainSyntax : Begins 'a' subdomainSyntax := by
  unfold subdomainSyntax
  exact ((((Begins.ofList _ _).append _).append _).append _).append _

theorem begins_labelSyntax : Begins 'a' labelSyntax := by
  unfold labelSyntax
  exact ((((Begins.ofList _ _).append _).append _).append _).append _

theorem begins_of_mem_problems {long malformed : Prop} [Decidable long] [Decidable malformed]
    {limit : Nat} {rule problem : String} (begins : Begins 'a' rule)
    (member : problem ∈ (if long then [tooLong limit] else []) ++
      (if malformed then [] else [rule])) : Begins 'm' problem ∨ Begins 'a' problem := by
  rcases List.mem_append.mp member with front | back
  · split at front
    · rw [List.mem_singleton.mp front]
      exact .inl (begins_tooLong limit)
    · cases front
  · split at back
    · cases back
    · rw [List.mem_singleton.mp back]
      exact .inr begins

theorem begins_intercalate {problems : List String} (wrong : problems ≠ [])
    (begins : ∀ problem ∈ problems, Begins 'm' problem ∨ Begins 'a' problem) :
    Begins 'm' (",".intercalate problems) ∨ Begins 'a' (",".intercalate problems) := by
  obtain ⟨first, later, rfl⟩ := List.exists_cons_of_ne_nil wrong
  rcases begins first List.mem_cons_self with begins | begins
  · exact .inl (begins.intercalate "," later)
  · exact .inr (begins.intercalate "," later)

theorem begins_subdomainDetail {name : String} (wrong : subdomainProblems name ≠ []) :
    Begins 'm' (",".intercalate (subdomainProblems name)) ∨
      Begins 'a' (",".intercalate (subdomainProblems name)) :=
  begins_intercalate wrong fun _ => begins_of_mem_problems begins_subdomainSyntax

theorem begins_labelDetail {name : String} (wrong : labelProblems name ≠ []) :
    Begins 'm' (",".intercalate (labelProblems name)) ∨
      Begins 'a' (",".intercalate (labelProblems name)) :=
  begins_intercalate wrong fun _ => begins_of_mem_problems begins_labelSyntax

theorem not_begins_subdomainDetail (name : String) :
    ¬ Begins 's' (",".intercalate (subdomainProblems name)) := by
  intro begins
  by_cases right : subdomainProblems name = []
  · rw [right] at begins
    cases begins
  · rcases begins_subdomainDetail right with other | other
    · cases begins.unique other
    · cases begins.unique other

end Dns

inductive FieldType where
  | choice (names : List String)
  | count
  | generation
  | delay
  | lease
  | deadline
  | group
  | label (normalize : String → String)
  | objectName

namespace FieldType

def lowercase (kind : String) : String := String.ofList (Text.lowercase kind.toList)

def ofName (registry : FeatureRegistry) : String → FieldType
  | "name" => .choice registry.names
  | "scope" => .choice (Choice.names Scope)
  | "resourceLock" => .choice (Choice.names ResourceLock)
  | "propagation" | "statusCollection" | "configuration" | "adoptResources" =>
    .choice (Choice.names Toggle)
  | "propagationController" | "statusController" => .choice (Choice.names RunState)
  | "periodSeconds" | "failureThreshold" | "successThreshold" | "timeoutSeconds" => .count
  | "observedGeneration" => .generation
  | "availableDelay" | "unavailableDelay" | "retryPeriod" => .delay
  | "leaseDuration" => .lease
  | "renewDeadline" => .deadline
  | "group" => .group
  | "version" | "pluralName" => .label id
  | "kind" => .label lowercase
  | _ => .objectName

def sort : FieldType → ValueSort
  | choice _ | group | label _ | objectName => .text
  | count | generation => .integer
  | delay | lease | deadline => .duration

/-- All that can be said of a value that a field must not hold. -/
def details : FieldType → FieldValue → List String
  | count, .integer _ => [Check.greaterThanZero]
  | generation, .integer _ => [Check.nonNegative]
  | delay, .duration _ => [Check.greaterThanZero]
  | lease, .duration _ => [Check.greaterThanZero, leaseRule]
  | deadline, .duration _ => [Check.greaterThanZero, renewRule]
  | group, .text value =>
    [ResourceType.atLeastOneDot, ",".intercalate (Dns.subdomainProblems value)]
  | label normalize, .text value => [",".intercalate (Dns.labelProblems (normalize value))]
  | objectName, .text _ => [TypeConfig.nameRule]
  | _, _ => []

theorem sort_of_mem_details {type : FieldType} {value : FieldValue} {detail : String}
    (known : detail ∈ type.details value) : value.sort = type.sort := by
  cases type <;> cases value <;> first | rfl | exact nomatch known

/-- What can be said of one value begins with different characters. -/
theorem eq_of_begins_details {type : FieldType} {value : FieldValue} {first second : String}
    {c : Char} (known : first ∈ type.details value) (knownToo : second ∈ type.details value)
    (begins : Begins c first) (beginsToo : Begins c second) : first = second := by
  have single {only : String} (known : first ∈ [only]) (knownToo : second ∈ [only]) :
      first = second :=
    (List.mem_singleton.mp known).trans (List.mem_singleton.mp knownToo).symm
  have pair {one other : String} (differ : ¬ (Begins c one ∧ Begins c other))
      (known : first ∈ [one, other]) (knownToo : second ∈ [one, other]) : first = second := by
    rcases List.mem_pair.mp known with rfl | rfl <;>
      rcases List.mem_pair.mp knownToo with rfl | rfl
    · rfl
    · exact absurd ⟨begins, beginsToo⟩ differ
    · exact absurd ⟨beginsToo, begins⟩ differ
    · rfl
  have greater : Begins 's' Check.greaterThanZero := .ofList _ _
  have lease : Begins 'l' leaseRule := .ofList _ _
  have renew : Begins 'r' renewRule := .ofList _ _
  have dot : Begins 's' ResourceType.atLeastOneDot := .ofList _ _
  unfold details at known knownToo
  split at known
  · exact single known knownToo
  · exact single known knownToo
  · exact single known knownToo
  · exact pair (fun both => nomatch (both.1.unique greater).symm.trans (both.2.unique lease)) known
      knownToo
  · exact pair (fun both => nomatch (both.1.unique greater).symm.trans (both.2.unique renew)) known
      knownToo
  · refine pair (fun both => ?_) known knownToo
    obtain rfl := both.1.unique dot
    exact Dns.not_begins_subdomainDetail _ both.2
  · exact single known knownToo
  · exact single known knownToo
  · exact nomatch known

theorem exists_begins {text : String} (given : text ≠ "") : ∃ c, Begins c text := by
  obtain ⟨c, rest, chars⟩ := List.exists_cons_of_ne_nil fun empty =>
    given (String.toList_eq_nil_iff.mp empty)
  exact ⟨c, by rw [Begins, chars]; rfl⟩

theorem details_append_inj {type : FieldType} {value : FieldValue} {first second : String}
    {back rest : List Char} (known : first ∈ type.details value) (given : first ≠ "")
    (knownToo : second ∈ type.details value) (givenToo : second ≠ "")
    (same : first.toList ++ back = second.toList ++ rest) : first = second ∧ back = rest := by
  obtain ⟨c, begins⟩ := exists_begins given
  obtain ⟨d, beginsToo⟩ := exists_begins givenToo
  obtain rfl := begins.eq_of_append_eq beginsToo same
  obtain rfl := eq_of_begins_details known knownToo begins beginsToo
  exact ⟨rfl, List.append_cancel_left same⟩

end FieldType

def FieldPath.type (registry : FeatureRegistry) (path : FieldPath) : FieldType :=
  match path.below.getLast? with
  | some (.field name) => .ofName registry name
  | _ => .objectName

theorem FieldPath.type_child (registry : FeatureRegistry) (path : FieldPath) (name : String) :
    (path.child name).type registry = .ofName registry name := by
  rw [type, child, List.getLast?_concat]

def ViolationKind.initial : ViolationKind → Char
  | required => 'R'
  | invalid => 'I'
  | notSupported => 'U'
  | duplicate => 'D'

theorem ViolationKind.initial_inj (kind other : ViolationKind)
    (same : kind.initial = other.initial) : kind = other := by
  revert same
  cases kind <;> cases other <;> decide

theorem ViolationKind.begins_label (kind : ViolationKind) : Begins kind.initial kind.label := by
  cases kind <;> exact .ofList _ _

theorem ViolationKind.label_append_inj {kind other : ViolationKind} {back rest : List Char}
    (same : kind.label.toList ++ back = other.label.toList ++ rest) :
    kind = other ∧ back = rest := by
  obtain rfl := kind.initial_inj other
    (kind.begins_label.eq_of_append_eq other.begins_label same)
  exact ⟨rfl, List.append_cancel_left same⟩

namespace Violation

def comment (violation : Violation) : List Char :=
  violation.kind.label.toList ++
    ((if violation.kind = .required then [] else ':' :: ' ' :: violation.badValue.render.toList) ++
      if violation.detail = "" then [] else ':' :: ' ' :: violation.detail.toList)

theorem toList_render (violation : Violation) :
    violation.render.toList =
      violation.field.render.toList ++ ':' :: ' ' :: violation.comment := by
  rw [render, comment]
  split <;> split <;> simp [String.toList_append]

/-- The violations that a check can report, by the type of the field. -/
inductive IsLegible (registry : FeatureRegistry) : Violation → Prop where
  | required {path : FieldPath} (plain : path.IsPlain) : IsLegible registry (required path "")
  | invalid {path : FieldPath} {value : FieldValue} {detail : String} (plain : path.IsPlain)
      (given : detail ≠ "") (known : detail ∈ (path.type registry).details value) :
      IsLegible registry (invalid path value detail)
  | notSupported {path : FieldPath} {text : String} {names : List String} (plain : path.IsPlain)
      (offered : path.type registry = .choice names) :
      IsLegible registry (notSupported path (.text text) names)
  | duplicate {path : FieldPath} {text : String} (plain : path.IsPlain) :
      IsLegible registry (duplicate path (.text text))

namespace IsLegible

variable {registry : FeatureRegistry} {violation other : Violation} {back rest : List Char}

theorem plain (legible : violation.IsLegible registry) : violation.field.IsPlain := by
  cases legible with
  | required plain | invalid plain | notSupported plain | duplicate plain => exact plain

theorem comment_append_inj (legible : violation.IsLegible registry)
    (legibleToo : other.IsLegible registry) (fields : violation.field = other.field)
    (same : violation.comment ++ back = other.comment ++ rest) :
    violation = other ∧ back = rest := by
  simp only [comment, List.append_assoc] at same
  obtain ⟨kinds, tails⟩ := ViolationKind.label_append_inj same
  cases legible with
  | required plain =>
      cases legibleToo with
      | required =>
          cases fields
          exact ⟨rfl, tails⟩
      | invalid | notSupported | duplicate => cases kinds
  | @invalid path value detail plain given known =>
      cases legibleToo with
      | @invalid _ otherValue otherDetail plainToo givenToo knownToo =>
          cases fields
          change _ ++ ((if detail = "" then [] else _) ++ back) =
            _ ++ ((if otherDetail = "" then [] else _) ++ rest) at tails
          rw [if_neg given, if_neg givenToo] at tails
          have sorts := (FieldType.sort_of_mem_details known).trans
            (FieldType.sort_of_mem_details knownToo).symm
          have parts := (List.cons.inj (List.cons.inj tails).2).2
          obtain ⟨rfl, details⟩ := FieldValue.render_append_inj sorts parts
          obtain ⟨rfl, rests⟩ := FieldType.details_append_inj known given knownToo givenToo
            (List.cons.inj details).2
          exact ⟨rfl, rests⟩
      | required | notSupported | duplicate => cases kinds
  | @notSupported path text names plain offered =>
      cases legibleToo with
      | @notSupported _ otherText otherNames plainToo offeredToo =>
          cases fields
          obtain rfl : names = otherNames :=
            FieldType.choice.inj (offered.symm.trans offeredToo)
          have parts := (List.cons.inj (List.cons.inj tails).2).2
          obtain ⟨rfl, rests⟩ := FieldValue.text_append_inj parts
          exact ⟨rfl, List.append_cancel_left rests⟩
      | required | invalid | duplicate => cases kinds
  | @duplicate path text plain =>
      cases legibleToo with
      | @duplicate _ otherText plainToo =>
          cases fields
          have parts := (List.cons.inj (List.cons.inj tails).2).2
          obtain ⟨rfl, rests⟩ := FieldValue.text_append_inj parts
          exact ⟨rfl, rests⟩
      | required | invalid | notSupported => cases kinds

theorem colon_not_mem_field (legible : violation.IsLegible registry) :
    ':' ∉ violation.field.render.toList :=
  fun member => nomatch legible.plain.isPathChar_of_mem_render ':' member

/-- The text of a violation tells where it ends, whatever stands behind it. -/
theorem render_append_inj (legible : violation.IsLegible registry)
    (legibleToo : other.IsLegible registry)
    (same : violation.render.toList ++ back = other.render.toList ++ rest) :
    violation = other ∧ back = rest := by
  rw [toList_render, toList_render, List.append_assoc, List.append_assoc] at same
  obtain ⟨paths, tails⟩ := append_delimiter_inj legible.colon_not_mem_field
    legibleToo.colon_not_mem_field same
  have fields := FieldPath.render_inj_of_clear legible.plain.isClear legibleToo.plain.isClear
    (String.toList_inj.mp paths)
  exact legible.comment_append_inj legibleToo fields (List.cons.inj tails).2

theorem render_begins (legible : violation.IsLegible registry) :
    ∃ c rest, violation.render.toList = c :: rest ∧ c.isAlpha := by
  obtain ⟨c, rest, text, letter⟩ := legible.plain.render_begins
  exact ⟨c, _, by rw [toList_render, text, List.cons_append], letter⟩

end IsLegible

end Violation

namespace Violations

def IsLegible (registry : FeatureRegistry) (violations : Violations) : Prop :=
  ∀ violation ∈ violations, violation.IsLegible registry

/-- What stands behind a violation in brackets: the later ones, and the closing bracket. -/
def rest : Violations → List Char
  | [] => [']']
  | violation :: later => ',' :: ' ' :: (violation.render.toList ++ rest later)

theorem toList_intercalate_append (violation : Violation) (later : Violations) :
    (", ".intercalate ((violation :: later).map Violation.render)).toList ++ [']'] =
      violation.render.toList ++ rest later := by
  induction later generalizing violation with
  | nil => simp [rest]
  | cons other later ih =>
      have tail := ih other
      rw [rest, ← tail]
      simp [String.toList_append]

theorem toList_render_brackets (first second : Violation) (later : Violations) :
    (render (first :: second :: later)).toList =
      '[' :: (first.render.toList ++ rest (second :: later)) := by
  rw [← toList_intercalate_append]
  simp only [render, String.toList_append]
  rfl

variable {registry : FeatureRegistry}

theorem rest_inj {violations others : Violations} (legible : violations.IsLegible registry)
    (legibleToo : others.IsLegible registry) (same : rest violations = rest others) :
    violations = others := by
  induction violations generalizing others with
  | nil =>
      cases others with
      | nil => rfl
      | cons other others => cases same
  | cons violation violations ih =>
      cases others with
      | nil => cases same
      | cons other others =>
          obtain ⟨first, later⟩ := List.forall_mem_cons.mp legible
          obtain ⟨firstToo, laterToo⟩ := List.forall_mem_cons.mp legibleToo
          obtain ⟨rfl, tails⟩ := first.render_append_inj firstToo
            (List.cons.inj (List.cons.inj same).2).2
          rw [ih later laterToo tails]

theorem single_ne_brackets {violation first second : Violation} {later : Violations}
    (legible : violation.IsLegible registry) :
    (render [violation]).toList ≠ (render (first :: second :: later)).toList := by
  obtain ⟨c, tail, text, letter⟩ := legible.render_begins
  rw [toList_render_brackets, render, text]
  intro same
  obtain ⟨rfl, -⟩ := List.cons.inj same
  cases letter

theorem render_ne_nil {violation : Violation} {later : Violations}
    (legible : violation.IsLegible registry) : (render (violation :: later)).toList ≠ [] := by
  cases later with
  | nil =>
      obtain ⟨c, tail, text, -⟩ := legible.render_begins
      rw [render, text]
      exact List.cons_ne_nil _ _
  | cons second later =>
      rw [toList_render_brackets]
      exact List.cons_ne_nil _ _

theorem render_inj_of_legible {violations others : Violations}
    (legible : violations.IsLegible registry) (legibleToo : others.IsLegible registry)
    (same : violations.render = others.render) : violations = others := by
  have texts := congrArg String.toList same
  match violations, others with
  | [], [] => rfl
  | [], other :: _ =>
      exact absurd texts.symm (render_ne_nil (legibleToo other List.mem_cons_self))
  | violation :: _, [] =>
      exact absurd texts (render_ne_nil (legible violation List.mem_cons_self))
  | [violation], [other] =>
      have ends := congrArg (· ++ []) texts
      obtain ⟨rfl, -⟩ := (legible violation List.mem_cons_self).render_append_inj
        (legibleToo other List.mem_cons_self) ends
      rfl
  | [violation], _ :: _ :: _ =>
      exact absurd texts (single_ne_brackets (legible violation List.mem_cons_self))
  | _ :: _ :: _, [other] =>
      exact absurd texts.symm (single_ne_brackets (legibleToo other List.mem_cons_self))
  | first :: second :: later, third :: fourth :: others =>
      rw [toList_render_brackets, toList_render_brackets] at texts
      obtain ⟨firstLegible, laterLegible⟩ := List.forall_mem_cons.mp legible
      obtain ⟨thirdLegible, othersLegible⟩ := List.forall_mem_cons.mp legibleToo
      obtain ⟨rfl, tails⟩ := firstLegible.render_append_inj thirdLegible (List.cons.inj texts).2
      rw [rest_inj laterLegible othersLegible tails]

end Violations

end FederationConfig
