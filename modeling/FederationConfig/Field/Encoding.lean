import FederationConfig.Field.Violation
import FederationConfig.Json.Basic

namespace FederationConfig

def FieldValue.toJson : FieldValue → Json
  | omitted => .null
  | text value => .text value
  | integer value => .integer value.toInt
  | duration value => .text value.render

def ViolationKind.code : ViolationKind → String
  | required => "FieldValueRequired"
  | invalid => "FieldValueInvalid"
  | notSupported => "FieldValueNotSupported"
  | duplicate => "FieldValueDuplicate"

def Violation.toJson (violation : Violation) : Json :=
  .object (
    [("type", .text violation.kind.code),
      ("field", .text violation.field.render),
      ("badValue", violation.badValue.toJson)] ++
    (if violation.detail = "" then [] else [("detail", .text violation.detail)]) ++
    (if violation.supported = [] then []
      else [("supported", .list (violation.supported.map .text))]))

def Violations.toJson (violations : Violations) : Json := .list (violations.map Violation.toJson)

end FederationConfig
