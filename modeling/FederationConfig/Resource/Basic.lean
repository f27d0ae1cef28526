import FederationConfig.Choice

namespace FederationConfig

structure Metadata where
  name : String := ""
  enclosing : Option String := none
  deriving DecidableEq, Repr, Inhabited

structure ResourceType where
  group : String := ""
  version : String := ""
  kind : String := ""
  pluralName : String := ""
  scope : Setting Scope := .missing
  deriving DecidableEq, Repr, Inhabited

abbrev NamingConvention := ResourceType → String

/-- The plural name, followed by the group unless that is the core group. -/
def NamingConvention.groupQualified : NamingConvention := fun target =>
  if target.group = "" then target.pluralName else target.pluralName ++ "." ++ target.group

end FederationConfig
