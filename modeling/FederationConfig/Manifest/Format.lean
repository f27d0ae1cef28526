import FederationConfig.Json.Reading
import FederationConfig.Toml.Reading
import FederationConfig.Tree.Wording
import FederationConfig.Yaml.Reading

namespace FederationConfig

inductive ManifestFormat where
  | yaml
  | json
  | toml
  deriving DecidableEq, Repr

/-- The documents of a text in order; none stands for one that is malformed. -/
abbrev Documents := List (Option Tree)

namespace ManifestFormat

def wording : ManifestFormat → Wording
  | yaml => .yaml
  | json => .json
  | toml => .toml

def documents (format : ManifestFormat) (text : String) : Documents :=
  match format with
  | yaml => Yaml.documents text
  | json => [(Json.read? text).map Json.toTree]
  | toml => [Toml.read? text]

def skips (format : ManifestFormat) (tree : Tree) : Bool := format = yaml && tree.isNull

end ManifestFormat

end FederationConfig
