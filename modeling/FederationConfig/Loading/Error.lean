import FederationConfig.File.Path
import FederationConfig.Manifest.Place

namespace FederationConfig

inductive LoadError where
  | pathTooLong
  | partTooLong
  | unreadable (fault : FileFault)
  | fileTooLong
  | notUtf8
  | noManifest (format : ManifestFormat) (text : String) (fault : ManifestFault)
  | documentCount (count : Nat)
  | otherKind (kind : ManifestKind)
  | rejected (violations : Violations)
  deriving Repr

inductive LoadStage where
  | limit
  | io
  | parse
  | validation
  deriving DecidableEq, Repr

def LoadStage.label : LoadStage → String
  | limit => "config limit exceeded"
  | io => "config io error"
  | parse => "config parse error"
  | validation => "invalid config"

namespace LoadError

def stage : LoadError → LoadStage
  | pathTooLong => .limit
  | partTooLong => .limit
  | fileTooLong => .limit
  | unreadable _ => .io
  | rejected _ => .validation
  | _ => .parse

def detail : LoadError → String
  | pathTooLong => "config path exceeds max length"
  | partTooLong => "config path component too long"
  | unreadable fault => fault.message
  | fileTooLong => "manifest file exceeds size limit"
  | notUtf8 => "manifest file must be utf-8"
  | noManifest format text fault => fault.messageIn format text
  | documentCount count =>
    "expected exactly one " ++ ManifestKind.operatorConfig.name ++ " document, found " ++ count.repr
  | otherKind kind =>
    "expected a " ++ ManifestKind.operatorConfig.name ++ " document, found " ++ kind.name
  | rejected violations => violations.render

def message (error : LoadError) : String := error.stage.label ++ ": " ++ error.detail

end LoadError

end FederationConfig
