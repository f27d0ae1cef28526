import FederationConfig.Resource.Basic

namespace FederationConfig

structure TypeConfigSpec where
  targetType : ResourceType := {}
  federatedType : ResourceType := {}
  statusType : Option ResourceType := none
  propagation : Setting Toggle := .missing
  statusCollection : Option (Setting Toggle) := none
  deriving DecidableEq, Repr, Inhabited

structure TypeConfigStatus where
  observedGeneration : Int64 := 0
  propagationController : Setting RunState := .missing
  statusController : Option (Setting RunState) := none
  deriving DecidableEq, Repr, Inhabited

structure TypeConfig where
  apiVersion : String := ""
  metadata : Metadata := {}
  spec : TypeConfigSpec := {}
  status : TypeConfigStatus := {}
  deriving DecidableEq, Repr, Inhabited

end FederationConfig
