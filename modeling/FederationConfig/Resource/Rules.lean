import FederationConfig.Check
import FederationConfig.Dns
import FederationConfig.Resource.Basic
import FederationConfig.Text.Lowercase

/-!
Rules for resource types. The core group is empty and stands only where a target is described;
federated and status types need a group with a dot.
-/

namespace FederationConfig.ResourceType

def atLeastOneDot : String := "should be a domain with at least one dot"

def problemsAt (path : FieldPath) (value : String) (problems : List String) : Violations :=
  if problems = [] then [] else [.invalid path (.text value) (",".intercalate problems)]

def groupViolations (path : FieldPath) (group : String) : Violations :=
  if group = "" then [] else problemsAt path group (Dns.subdomainProblems group)

def labelViolations (path : FieldPath) (value normalized : String) : Violations :=
  if value = "" then [.required path ""] else problemsAt path value (Dns.labelProblems normalized)

def dottedGroupViolations (path : FieldPath) (group : String) : Violations :=
  if group = "" then [.required path ""]
  else if Dns.labelCount group < 2 then [.invalid path (.text group) atLeastOneDot]
  else []

def violations (resource : ResourceType) (path : FieldPath) : Violations :=
  groupViolations (path.child "group") resource.group ++
    labelViolations (path.child "version") resource.version resource.version ++
    labelViolations (path.child "kind") resource.kind
      (String.ofList (Text.lowercase resource.kind.toList)) ++
    labelViolations (path.child "pluralName") resource.pluralName resource.pluralName ++
    Check.setting (path.child "scope") resource.scope

def strictViolations (resource : ResourceType) (path : FieldPath) : Violations :=
  dottedGroupViolations (path.child "group") resource.group ++ resource.violations path

end FederationConfig.ResourceType
