import FederationConfig.Check
import Mathlib.Data.List.Nodup

/-!
Rules apart from the checks that enforce them: when a rule is broken, and what is then reported.
A list of rules reports the broken ones in its order. A rule whose report no other rule shares
is reported exactly when it is broken.
-/

namespace FederationConfig

namespace Setting

variable {α : Type}

def isMissing : Setting α → Bool
  | missing => true
  | _ => false

def isKnown : Setting α → Bool
  | known _ => true
  | _ => false

def isUnrecognized : Setting α → Bool
  | unrecognized _ => true
  | _ => false

theorem isKnown_iff (setting : Setting α) :
    setting.isKnown ↔ ¬ setting.isMissing ∧ ¬ setting.isUnrecognized := by
  cases setting <;> simp [isKnown, isMissing, isUnrecognized]

end Setting

structure Rule where
  broken : Prop
  report : Violation
  decidable : Decidable broken

attribute [instance] Rule.decidable

namespace Rule

def when (broken : Prop) [Decidable broken] (report : Violation) : Rule :=
  ⟨broken, report, inferInstance⟩

@[simp] theorem when_broken (broken : Prop) [Decidable broken] (report : Violation) :
    (when broken report).broken = broken := rfl

@[simp] theorem when_report (broken : Prop) [Decidable broken] (report : Violation) :
    (when broken report).report = report := rfl

def reports (rules : List Rule) : Violations := (rules.filter fun rule => rule.broken).map report

@[simp] theorem reports_nil : reports [] = [] := rfl

theorem reports_cons (rule : Rule) (rules : List Rule) :
    reports (rule :: rules) = (if rule.broken then [rule.report] else []) ++ reports rules := by
  by_cases broken : rule.broken <;> simp [reports, broken]

theorem reports_append (front back : List Rule) :
    reports (front ++ back) = reports front ++ reports back := by
  simp [reports]

theorem reports_flatMap {α : Type} (items : List α) (rules : α → List Rule) :
    reports (items.flatMap rules) = items.flatMap fun item => reports (rules item) := by
  simp [reports, List.filter_flatMap, List.map_flatMap]

theorem mem_reports (rules : List Rule) (violation : Violation) :
    violation ∈ reports rules ↔ ∃ rule ∈ rules, rule.broken ∧ rule.report = violation := by
  simp [reports, and_assoc]

def Kept (rules : List Rule) : Prop := ∀ rule ∈ rules, ¬ rule.broken

theorem reports_eq_nil (rules : List Rule) : reports rules = [] ↔ Kept rules := by
  simp [reports, Kept]

theorem kept_append (front back : List Rule) : Kept (front ++ back) ↔ Kept front ∧ Kept back :=
  List.forall_mem_append

theorem kept_cons (rule : Rule) (rules : List Rule) :
    Kept (rule :: rules) ↔ ¬ rule.broken ∧ Kept rules :=
  List.forall_mem_cons

theorem kept_nil : Kept [] := fun _ member => nomatch member

def Distinct (rules : List Rule) : Prop := (rules.map report).Nodup

theorem Distinct.report_mem_reports {rules : List Rule} (distinct : Distinct rules) {rule : Rule}
    (member : rule ∈ rules) : rule.report ∈ reports rules ↔ rule.broken := by
  rw [mem_reports]
  constructor
  · rintro ⟨other, otherMember, broken, same⟩
    exact List.inj_on_of_nodup_map distinct otherMember member same ▸ broken
  · intro broken
    exact ⟨rule, member, broken, rfl⟩

theorem Distinct.nodup_reports {rules : List Rule} (distinct : Distinct rules) :
    (reports rules).Nodup :=
  distinct.sublist (List.filter_sublist.map report)

def Under (path : FieldPath) (rules : List Rule) : Prop :=
  ∀ rule ∈ rules, ∃ rest, rule.report.field = ⟨path.root, path.below ++ rest⟩

theorem Under.widen {path : FieldPath} {segment : PathSegment} {rules : List Rule}
    (under : Under ⟨path.root, path.below ++ [segment]⟩ rules) : Under path rules := by
  intro rule member
  obtain ⟨rest, place⟩ := under rule member
  exact ⟨segment :: rest, by rw [place, List.append_assoc, List.singleton_append]⟩

theorem distinct_branches (path : FieldPath) (branches : List (PathSegment × List Rule))
    (segments : (branches.map Prod.fst).Nodup)
    (under : ∀ branch ∈ branches, Under ⟨path.root, path.below ++ [branch.1]⟩ branch.2)
    (distinct : ∀ branch ∈ branches, Distinct branch.2) :
    Distinct (branches.flatMap Prod.snd) := by
  rw [Distinct, List.map_flatMap, List.Nodup, List.pairwise_flatMap]
  refine ⟨distinct, (List.pairwise_map.mp segments).imp_of_mem ?_⟩
  intro front back frontMember backMember differ
  simp only [List.mem_map]
  rintro _ ⟨rule, member, rfl⟩ _ ⟨other, otherMember, rfl⟩ same
  obtain ⟨rest, place⟩ := under front frontMember rule member
  obtain ⟨otherRest, otherPlace⟩ := under back backMember other otherMember
  rw [same, otherPlace, FieldPath.mk.injEq] at place
  have tails := place.2
  simp only [List.append_assoc, List.append_cancel_left_eq, List.singleton_append,
    List.cons.injEq] at tails
  exact differ tails.1.symm

def setting {α : Type} [Choice α] (path : FieldPath) (value : Setting α) : List Rule :=
  [when value.isMissing (.required path ""),
    when value.isUnrecognized (.notSupported path (.text value.text) (Choice.names α))]

theorem kept_setting {α : Type} [Choice α] (path : FieldPath) (value : Setting α) :
    Kept (setting path value) ↔ value.isKnown := by
  rw [setting, kept_cons, kept_cons, value.isKnown_iff, when_broken, when_broken,
    and_iff_left kept_nil]

theorem under_setting {α : Type} [Choice α] (path : FieldPath) (value : Setting α) :
    Under path (setting path value) := by
  have own : path = ⟨path.root, path.below ++ []⟩ := by rw [List.append_nil]
  intro rule member
  rcases List.mem_pair.mp member with rfl | rfl
  · exact ⟨[], own⟩
  · exact ⟨[], own⟩

theorem distinct_setting {α : Type} [Choice α] (path : FieldPath) (value : Setting α) :
    Distinct (setting path value) := by
  simp [Distinct, setting, Violation.required, Violation.notSupported]

def positive (path : FieldPath) (value : Int64) : Rule :=
  when (value ≤ 0) (.invalid path (.integer value) Check.greaterThanZero)

def positiveDuration (path : FieldPath) (value : Duration) : Rule :=
  when (value ≤ Duration.zero) (.invalid path (.duration value) Check.greaterThanZero)

def atLeastZero (path : FieldPath) (value : Int64) : Rule :=
  when (value < 0) (.invalid path (.integer value) Check.nonNegative)

end Rule

namespace Check

theorem setting_eq_reports {α : Type} [Choice α] (path : FieldPath) (value : Setting α) :
    setting path value = Rule.reports (Rule.setting path value) := by
  cases value <;> rfl

theorem positive_eq_reports (path : FieldPath) (value : Int64) :
    positive path value = Rule.reports [Rule.positive path value] := by
  rw [Rule.reports_cons, Rule.reports_nil, List.append_nil]
  rfl

theorem positiveDuration_eq_reports (path : FieldPath) (value : Duration) :
    positiveDuration path value = Rule.reports [Rule.positiveDuration path value] := by
  rw [Rule.reports_cons, Rule.reports_nil, List.append_nil]
  rfl

theorem atLeastZero_eq_reports (path : FieldPath) (value : Int64) :
    atLeastZero path value = Rule.reports [Rule.atLeastZero path value] := by
  rw [Rule.reports_cons, Rule.reports_nil, List.append_nil]
  rfl

end Check

end FederationConfig
