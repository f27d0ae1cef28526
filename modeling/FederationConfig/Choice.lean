/-!
Closed sets of values, and fields that hold one of them. A field keeps a text outside its set as
it is, so that a check can report it.
-/

namespace FederationConfig

/-- A closed set of values. Each has a name, and may be given by further spellings. -/
class Choice (α : Type) where
  options : List α
  name : α → String
  aliases : α → List String

namespace Choice

variable {α : Type} [Choice α]

def parse? (text : String) : Option α :=
  options.find? fun value => name value = text ∨ text ∈ aliases value

variable (α)

def names : List String := (options : List α).map name

end Choice

inductive Scope where
  | cluster
  | namespaced
  deriving DecidableEq, Repr

instance : Choice Scope where
  options := [.cluster, .namespaced]
  name
    | .cluster => "Cluster"
    | .namespaced => "Namespaced"
  aliases
    | .cluster => []
    | .namespaced => ["Namespace"]

inductive Toggle where
  | enabled
  | disabled
  deriving DecidableEq, Repr

instance : Choice Toggle where
  options := [.enabled, .disabled]
  name
    | .enabled => "Enabled"
    | .disabled => "Disabled"
  aliases _ := []

inductive RunState where
  | running
  | notRunning
  deriving DecidableEq, Repr

instance : Choice RunState where
  options := [.running, .notRunning]
  name
    | .running => "Running"
    | .notRunning => "NotRunning"
  aliases _ := []

inductive ResourceLock where
  | configMaps
  | endpoints
  deriving DecidableEq, Repr

instance : Choice ResourceLock where
  options := [.configMaps, .endpoints]
  name
    | .configMaps => "configmaps"
    | .endpoints => "endpoints"
  aliases _ := []

/-- A field over a closed set: empty, one of the values, or some other text. -/
inductive Setting (α : Type) where
  | missing
  | known (value : α)
  | unrecognized (text : String)
  deriving DecidableEq, Repr

namespace Setting

variable {α : Type}

instance : Inhabited (Setting α) := ⟨missing⟩

def known? : Setting α → Option α
  | known value => some value
  | _ => none

variable [Choice α]

def ofText (text : String) : Setting α :=
  if text = "" then missing
  else match Choice.parse? text with
    | some value => known value
    | none => unrecognized text

def text : Setting α → String
  | missing => ""
  | known value => Choice.name value
  | unrecognized text => text

end Setting

end FederationConfig
