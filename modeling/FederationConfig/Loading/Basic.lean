import FederationConfig.Loading.Error

/-!
Loading manifests from files. Paths and files have size limits, and the configuration of an
operator is loaded only if it is the one document of its file and has no violations.
-/

namespace FederationConfig

def greatestFileSize : Nat := 1024 * 1024

def ManifestFormat.ofPath (path : FilePath) : ManifestFormat :=
  if hasExtension path "json" then .json
  else if hasExtension path "toml" then .toml
  else .yaml

namespace Loading

def checkPath (path : FilePath) : Except LoadError Unit :=
  if isPathTooLong path then .error .pathTooLong
  else if hasPartTooLong path then .error .partTooLong
  else .ok ()

def readText (files : FileSystem) (path : FilePath) : Except LoadError String := do
  checkPath path
  let content ← (files path).mapError .unreadable
  if greatestFileSize < content.size then throw .fileTooLong
  match String.fromUTF8? content with
  | none => throw .notUtf8
  | some text => return text

def manifests (files : FileSystem) (path : FilePath) : Except LoadError (List Manifest) := do
  let text ← readText files path
  let format := ManifestFormat.ofPath path
  (Manifest.readAll format text).mapError (.noManifest format text)

def defaultPath : FilePath := "kubefed-config.yaml"

/-- What the environment says; a value that is not Unicode counts as none. -/
def environmentText (value : Option ByteArray) : Option String := value.bind String.fromUTF8?

def choosePath (given : Option FilePath) (environment : Option String) :
    Except LoadError FilePath :=
  match given, environment with
  | some path, _ => .ok path
  | none, some path => if isPathTooLong path then .error .pathTooLong else .ok path
  | none, none => .ok defaultPath

def operatorOf : List Manifest → Except LoadError OperatorConfig
  | [.operatorConfig config] => .ok config
  | [other] => .error (.otherKind other.kind)
  | others => .error (.documentCount others.length)

def checkOperator (config : OperatorConfig) : Except LoadError OperatorConfig :=
  match config.violations .default .default with
  | [] => .ok config
  | violations => .error (.rejected violations)

def operator (files : FileSystem) (given : Option FilePath) (environment : Option String) :
    Except LoadError OperatorConfig := do
  let path ← choosePath given environment
  let found ← manifests files path
  let config ← operatorOf found
  checkOperator config

end Loading

end FederationConfig
