import FederationConfig.Resource.Basic
import FederationConfig.Resource.Rules
import FederationConfig.TypeConfig.Basic

/-!
Rules for type configs. The object and its status are checked in separate passes, and an object
that does not carry the name of its target is not looked into.
-/

namespace FederationConfig

def TypeConfigSpec.violations (spec : TypeConfigSpec) (path : FieldPath) : Violations :=
  spec.targetType.violations (path.child "targetType") ++
    Check.setting (path.child "propagation") spec.propagation ++
    spec.federatedType.strictViolations (path.child "federatedType") ++
    (match spec.statusType with
      | none => []
      | some statusType => statusType.strictViolations (path.child "statusType")) ++
    (match spec.statusCollection with
      | none => []
      | some setting => Check.setting (path.child "statusCollection") setting)

def TypeConfigStatus.violations (status : TypeConfigStatus) (path : FieldPath) : Violations :=
  Check.atLeastZero (path.child "observedGeneration") status.observedGeneration ++
    Check.setting (path.child "propagationController") status.propagationController ++
    (match status.statusController with
      | none => []
      | some setting => Check.setting (path.child "statusController") setting)

namespace TypeConfig

def nameRule : String := "name must be 'TARGET_PLURAL_NAME(.TARGET_GROUP_NAME)'"

def nameViolations (naming : NamingConvention) (config : TypeConfig) : Violations :=
  if naming config.spec.targetType = config.metadata.name then []
  else [.invalid (.ofRoot "name") (.text config.metadata.name) nameRule]

def objectViolations (naming : NamingConvention) (config : TypeConfig) : Violations :=
  match config.nameViolations naming with
  | [] => config.spec.violations (.ofRoot "spec")
  | mismatch => mismatch

inductive Pass where
  | object
  | status
  deriving DecidableEq, Repr

def violations (naming : NamingConvention) (pass : Pass) (config : TypeConfig) : Violations :=
  match pass with
  | .object => config.objectViolations naming
  | .status => config.status.violations (.ofRoot "status")

end TypeConfig

end FederationConfig
