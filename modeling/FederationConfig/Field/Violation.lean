import FederationConfig.Duration.Rendering
import FederationConfig.Field.Path
import FederationConfig.Text.Escape

namespace FederationConfig

inductive FieldValue where
  | omitted
  | text (value : String)
  | integer (value : Int64)
  | duration (value : Duration)
  deriving DecidableEq, Repr

def FieldValue.render : FieldValue → String
  | omitted => "null"
  | text value => "\"" ++ Text.escape value ++ "\""
  | integer value => value.toInt.repr
  | duration value => "\"" ++ value.render ++ "\""

inductive ViolationKind where
  | required
  | invalid
  | notSupported
  | duplicate
  deriving DecidableEq, Repr

def ViolationKind.label : ViolationKind → String
  | required => "Required value"
  | invalid => "Invalid value"
  | notSupported => "Unsupported value"
  | duplicate => "Duplicate value"

structure Violation where
  kind : ViolationKind
  field : FieldPath
  badValue : FieldValue
  detail : String
  supported : List String
  deriving DecidableEq, Repr

namespace Violation

def required (field : FieldPath) (detail : String) : Violation :=
  ⟨.required, field, .omitted, detail, []⟩

def invalid (field : FieldPath) (value : FieldValue) (detail : String) : Violation :=
  ⟨.invalid, field, value, detail, []⟩

def supportedDetail (supported : List String) : String :=
  if supported = [] then ""
  else "supported values: " ++ ", ".intercalate (supported.map fun value => "\"" ++ value ++ "\"")

def notSupported (field : FieldPath) (value : FieldValue) (supported : List String) : Violation :=
  ⟨.notSupported, field, value, supportedDetail supported, supported⟩

def duplicate (field : FieldPath) (value : FieldValue) : Violation :=
  ⟨.duplicate, field, value, "", []⟩

/-- A required value is missing, so there is no bad value to show. -/
def render (violation : Violation) : String :=
  violation.field.render ++ ": " ++ violation.kind.label ++
    (if violation.kind = .required then "" else ": " ++ violation.badValue.render) ++
    (if violation.detail = "" then "" else ": " ++ violation.detail)

end Violation

abbrev Violations := List Violation

def Violations.render : Violations → String
  | [] => ""
  | [single] => single.render
  | violations => "[" ++ ", ".intercalate (violations.map Violation.render) ++ "]"

end FederationConfig
