import FederationConfig.OperatorConfig.Rules
import FederationConfig.Resource.Rules
import FederationConfig.Proofs.Location.Basic

namespace FederationConfig

namespace Violation

variable {root : Json} {path : FieldPath}

theorem required_showsIn (located : root.at? path.steps = some (.text "")) (detail : String) :
    (required path detail).ShowsIn root :=
  located

theorem invalid_showsIn {value : FieldValue} (located : root.at? path.steps = some value.toJson)
    (detail : String) : (invalid path value detail).ShowsIn root :=
  located

theorem notSupported_showsIn {value : FieldValue}
    (located : root.at? path.steps = some value.toJson) (supported : List String) :
    (notSupported path value supported).ShowsIn root :=
  located

theorem duplicate_showsIn {value : FieldValue}
    (located : root.at? path.steps = some value.toJson) : (duplicate path value).ShowsIn root :=
  located

end Violation

namespace Check

variable {root : Json} {path : FieldPath}

theorem oneOf_showIn {value : String} (located : root.at? path.steps = some (.text value))
    (accepted : List String) : (oneOf path value accepted).ShowIn root := by
  rw [oneOf]
  split
  case isTrue empty =>
    exact Violations.showIn_single (Violation.required_showsIn (empty ▸ located) "")
  case isFalse =>
    split
    · exact Violations.showIn_nil root
    · exact Violations.showIn_single (Violation.notSupported_showsIn located accepted)

theorem setting_showIn {α : Type} [Choice α] {value : Setting α}
    (located : root.at? path.steps = some (.text value.text)) :
    (setting path value).ShowIn root := by
  cases value with
  | missing => exact Violations.showIn_single (Violation.required_showsIn located "")
  | known value => exact Violations.showIn_nil root
  | unrecognized text =>
      exact Violations.showIn_single (Violation.notSupported_showsIn located (Choice.names α))

theorem positive_showIn {value : Int64}
    (located : root.at? path.steps = some (.integer value.toInt)) :
    (positive path value).ShowIn root :=
  Violations.showIn_when (value ≤ 0) (Violation.invalid_showsIn located greaterThanZero)

theorem positiveDuration_showIn {value : Duration}
    (located : root.at? path.steps = some (.text value.render)) :
    (positiveDuration path value).ShowIn root :=
  Violations.showIn_when (value ≤ Duration.zero)
    (Violation.invalid_showsIn located greaterThanZero)

theorem atLeastZero_showIn {value : Int64}
    (located : root.at? path.steps = some (.integer value.toInt)) :
    (atLeastZero path value).ShowIn root :=
  Violations.showIn_when (value < 0) (Violation.invalid_showsIn located nonNegative)

end Check

namespace ResourceType

variable {root : Json} {path : FieldPath} {value : String}

theorem problemsAt_showIn (located : root.at? path.steps = some (.text value))
    (problems : List String) : (problemsAt path value problems).ShowIn root := by
  rw [problemsAt]
  split
  · exact Violations.showIn_nil root
  · exact Violations.showIn_single (Violation.invalid_showsIn located _)

theorem groupViolations_showIn (located : root.at? path.steps = some (.text value)) :
    (groupViolations path value).ShowIn root := by
  rw [groupViolations]
  split
  · exact Violations.showIn_nil root
  · exact problemsAt_showIn located _

theorem labelViolations_showIn (located : root.at? path.steps = some (.text value))
    (normalized : String) : (labelViolations path value normalized).ShowIn root := by
  rw [labelViolations]
  split
  case isTrue empty =>
    exact Violations.showIn_single (Violation.required_showsIn (empty ▸ located) "")
  case isFalse => exact problemsAt_showIn located _

theorem dottedGroupViolations_showIn (located : root.at? path.steps = some (.text value)) :
    (dottedGroupViolations path value).ShowIn root := by
  rw [dottedGroupViolations]
  split
  case isTrue empty =>
    exact Violations.showIn_single (Violation.required_showsIn (empty ▸ located) "")
  case isFalse =>
    exact Violations.showIn_when _ (Violation.invalid_showsIn located atLeastOneDot)

end ResourceType

namespace LeaderElection

variable {root : Json} {path : FieldPath}

theorem leaseViolations_showIn {election : LeaderElection}
    (located : root.at? path.steps = some (.text election.leaseDuration.render)) :
    (election.leaseViolations path).ShowIn root :=
  Violations.showIn_when (election.leaseDuration ≤ election.renewDeadline)
    (Violation.invalid_showsIn located leaseRule)

theorem renewViolations_showIn (jitter : JitterFactor) {election : LeaderElection}
    (located : root.at? path.steps = some (.text election.renewDeadline.render)) :
    (election.renewViolations jitter path).ShowIn root := by
  rw [renewViolations]
  split
  · exact Violations.showIn_nil root
  · exact Violations.showIn_single (Violation.invalid_showsIn located renewRule)

end LeaderElection

end FederationConfig
