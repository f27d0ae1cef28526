import FederationConfig.CommandLine.Arguments
import FederationConfig.Json.Rendering
import FederationConfig.Report

namespace FederationConfig.CommandLine

structure Outcome where
  code : Nat
  output : String
  errors : String
  deriving DecidableEq, Repr

def joinLines (lines : List String) : String := String.join (lines.map fun line => line ++ "\n")

def renderDocument (json : Json) : String := json.renderIndented 0 ++ "\n"

def renderReports (format : OutputFormat) (reports : List FileReport) : String :=
  match format with
  | .text => joinLines (reports.flatMap FileReport.lines)
  | .json => renderDocument (.list (reports.map FileReport.toJson))

def renderFeatures (format : OutputFormat) (features : List Feature) : String :=
  match format with
  | .text => joinLines (features.map Feature.line)
  | .json => renderDocument (.list (features.map Feature.toJson))

def jitterOf (given : Option Binary64) : Except String JitterFactor :=
  match given with
  | none => .ok .default
  | some value => match JitterFactor.ofNumber? value with
    | some jitter => .ok jitter
    | none => .error (JitterFactor.rejection value)

def passOf (status : Bool) : TypeConfig.Pass := if status then .status else .object

def validateFiles (files : FileSystem) (policy : Policy) (format : OutputFormat)
    (paths : List FilePath) : Outcome :=
  let reports := paths.map (FileReport.ofFile files policy)
  ⟨if reports.all FileReport.isValid then 0 else 1, renderReports format reports, ""⟩

def Command.run (files : FileSystem) : Command → Outcome
  | validate paths status format jitter => match jitterOf jitter with
    | .error message => ⟨1, "", message ++ "\n"⟩
    | .ok jitter =>
      validateFiles files { pass := passOf status, jitter := jitter } format paths
  | features format => ⟨0, renderFeatures format FeatureRegistry.default.features, ""⟩

def usageText : String :=
  "Usage: kubefed-config [--verbose] validate [--status] [--format FORMAT] " ++
  "[--jitter-factor FACTOR] FILE...\n" ++
  "       kubefed-config [--verbose] features [--format FORMAT]\n"

def Stop.outcome : Stop → Outcome
  | usage => ⟨2, "", usageText⟩
  | help => ⟨0, usageText, ""⟩
  | version => ⟨0, "kubefed-config 0.1.0\n", ""⟩

def run (files : FileSystem) (arguments : List String) : Outcome :=
  match read {} arguments with
  | .ok command => command.run files
  | .error stop => stop.outcome

end FederationConfig.CommandLine
