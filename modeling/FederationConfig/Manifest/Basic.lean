import FederationConfig.OperatorConfig.Record
import FederationConfig.OperatorConfig.Rules
import FederationConfig.TypeConfig.Record
import FederationConfig.TypeConfig.Rules

namespace FederationConfig

inductive ManifestKind where
  | typeConfig
  | operatorConfig
  deriving DecidableEq, Repr

namespace ManifestKind

def name : ManifestKind → String
  | typeConfig => "FederatedTypeConfig"
  | operatorConfig => "KubeFedConfig"

def all : List ManifestKind := [typeConfig, operatorConfig]

def ofName? (name : String) : Option ManifestKind := all.find? fun kind => kind.name = name

end ManifestKind

/-- What a validation can be told: which pass it makes, and what it compares with. -/
structure Policy where
  naming : NamingConvention := .groupQualified
  pass : TypeConfig.Pass := .object
  jitter : JitterFactor := .default
  registry : FeatureRegistry := .default
  deriving Inhabited

inductive Manifest where
  | typeConfig (config : TypeConfig)
  | operatorConfig (config : OperatorConfig)
  deriving DecidableEq, Repr

namespace Manifest

def kind : Manifest → ManifestKind
  | typeConfig _ => .typeConfig
  | operatorConfig _ => .operatorConfig

def name : Manifest → String
  | typeConfig config => config.metadata.name
  | operatorConfig config => config.metadata.name

def toJson : Manifest → Json
  | typeConfig config => TypeConfig.record.write config
  | operatorConfig config => OperatorConfig.record.write config

def violations (policy : Policy) : Manifest → Violations
  | typeConfig config => config.violations policy.naming policy.pass
  | operatorConfig config => config.violations policy.jitter policy.registry

end Manifest

end FederationConfig
