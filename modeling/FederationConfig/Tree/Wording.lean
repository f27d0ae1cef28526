import FederationConfig.Number.Layout
import FederationConfig.Text.Escape
import FederationConfig.Tree.Basic

namespace FederationConfig

/-- Too long a list is described by the greatest length that fits. -/
structure Wording where
  null : String
  floats : NumberLayout
  surplus : Nat → String

namespace Wording

def elementsExpected (greatest : Nat) : String :=
  if greatest = 1 then "1 element in sequence" else greatest.repr ++ " elements in sequence"

def json : Wording := ⟨"null", .scientific, elementsExpected⟩

def toml : Wording := ⟨"null", .pointed, elementsExpected⟩

def yaml : Wording := ⟨"unit value", .pointed, elementsExpected⟩

def describe (wording : Wording) : Tree → String
  | .null => wording.null
  | .bool value => "boolean `" ++ (if value then "true" else "false") ++ "`"
  | .integer value => "integer `" ++ value.repr ++ "`"
  | .float value => "floating point `" ++ value.render wording.floats ++ "`"
  | .text value => "string " ++ Text.quote value
  | .list _ => "sequence"
  | .map _ => "map"
  | .tagged .. => "enum"

end Wording

end FederationConfig
