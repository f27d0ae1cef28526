import FederationConfig.Choice
import FederationConfig.Field.Violation

namespace FederationConfig.Check

def greaterThanZero : String := "should be greater than 0"

def nonNegative : String := "must be greater than or equal to 0"

def oneOf (path : FieldPath) (value : String) (accepted : List String) : Violations :=
  if value = "" then [.required path ""]
  else if value ∈ accepted then []
  else [.notSupported path (.text value) accepted]

def setting {α : Type} [Choice α] (path : FieldPath) : Setting α → Violations
  | .missing => [.required path ""]
  | .known _ => []
  | .unrecognized text => [.notSupported path (.text text) (Choice.names α)]

def positive (path : FieldPath) (value : Int64) : Violations :=
  if value ≤ 0 then [.invalid path (.integer value) greaterThanZero] else []

def positiveDuration (path : FieldPath) (value : Duration) : Violations :=
  if value ≤ Duration.zero then [.invalid path (.duration value) greaterThanZero] else []

def atLeastZero (path : FieldPath) (value : Int64) : Violations :=
  if value < 0 then [.invalid path (.integer value) nonNegative] else []

end FederationConfig.Check
