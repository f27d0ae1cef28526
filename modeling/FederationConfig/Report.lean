import FederationConfig.Field.Encoding
import FederationConfig.Loading.Basic

/-!
Reports on validated files, and lists of known features: as JSON, and as text with a line for
each document without violations and for each violation.
-/

namespace FederationConfig

structure DocumentReport where
  index : Nat
  kind : ManifestKind
  name : String
  violations : Violations
  deriving DecidableEq, Repr

namespace DocumentReport

def ofManifest (policy : Policy) (index : Nat) (manifest : Manifest) : DocumentReport :=
  ⟨index, manifest.kind, manifest.name, manifest.violations policy⟩

def isValid (report : DocumentReport) : Bool := report.violations.isEmpty

def heading (file : String) (report : DocumentReport) : String :=
  file ++ "[" ++ report.index.repr ++ "] " ++ report.kind.name ++ "/" ++ report.name

def lines (file : String) (report : DocumentReport) : List String :=
  match report.violations with
  | [] => [report.heading file ++ ": valid"]
  | violations => violations.map fun violation =>
    report.heading file ++ ": " ++ violation.render

def toJson (report : DocumentReport) : Json :=
  .object [
    ("index", .integer report.index),
    ("kind", .text report.kind.name),
    ("name", .text report.name),
    ("violations", report.violations.toJson)]

end DocumentReport

/-- What became of a file. One that cannot be loaded has no documents. -/
structure FileReport where
  file : String
  error : Option String
  documents : List DocumentReport
  deriving DecidableEq, Repr

namespace FileReport

def ofManifests (policy : Policy) (file : String) (manifests : List Manifest) : FileReport :=
  ⟨file, none, manifests.mapIdx (DocumentReport.ofManifest policy)⟩

def ofFile (files : FileSystem) (policy : Policy) (path : FilePath) : FileReport :=
  match Loading.manifests files path with
  | .ok manifests => ofManifests policy path.display manifests
  | .error error => ⟨path.display, some error.message, []⟩

def isValid (report : FileReport) : Bool :=
  report.error.isNone && report.documents.all DocumentReport.isValid

def lines (report : FileReport) : List String :=
  match report.error with
  | some error => [report.file ++ ": " ++ error]
  | none => report.documents.flatMap fun document => document.lines report.file

def toJson (report : FileReport) : Json :=
  .object (
    [("file", .text report.file)] ++
    (match report.error with
      | none => []
      | some error => [("error", .text error)]) ++
    [("documents", .list (report.documents.map DocumentReport.toJson))])

end FileReport

namespace Feature

def line (feature : Feature) : String :=
  feature.name ++ "\t" ++ feature.stage.name ++ "\tdefault=" ++
    (if feature.enabledByDefault then "true" else "false")

def toJson (feature : Feature) : Json :=
  .object [
    ("name", .text feature.name),
    ("stage", .text feature.stage.name),
    ("defaultEnabled", .bool feature.enabledByDefault)]

end Feature

end FederationConfig
