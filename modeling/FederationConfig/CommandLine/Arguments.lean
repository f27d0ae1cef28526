import FederationConfig.Choice
import FederationConfig.File.Path
import FederationConfig.Number.Reading

/-!
The arguments of a command. They are read in order, and the first one that is a request of its own
or that cannot be understood decides.
-/

namespace FederationConfig.CommandLine

inductive OutputFormat where
  | text
  | json
  deriving DecidableEq, Repr

instance : Choice OutputFormat where
  options := [.text, .json]
  name
    | .text => "text"
    | .json => "json"
  aliases _ := []

inductive Command where
  | validate (files : List FilePath) (status : Bool) (format : OutputFormat)
      (jitter : Option Binary64)
  | features (format : OutputFormat)
  deriving DecidableEq, Repr

inductive Stop where
  | usage
  | help
  | version
  deriving DecidableEq, Repr

/-- What the arguments have said so far. Files are kept in reverse. -/
structure Settings where
  verbose : Bool := false
  status : Bool := false
  format : Option OutputFormat := none
  jitter : Option Binary64 := none
  files : List FilePath := []

/-- What an option does. An option may be given once. -/
inductive Effect where
  | stop (stop : Stop)
  | flag (set : Settings → Option Settings)
  | valued (set : String → Settings → Option Settings)

def setVerbose (settings : Settings) : Option Settings :=
  if settings.verbose then none else some { settings with verbose := true }

def setStatus (settings : Settings) : Option Settings :=
  if settings.status then none else some { settings with status := true }

def setFormat (value : String) (settings : Settings) : Option Settings :=
  if settings.format.isSome then none
  else (Choice.parse? value).map fun format => { settings with format := some format }

def setJitter (value : String) (settings : Settings) : Option Settings :=
  if settings.jitter.isSome then none
  else (Binary64.ofText? value).map fun jitter => { settings with jitter := some jitter }

inductive Level where
  | top
  | validate
  | features
  deriving DecidableEq, Repr

def longOption? (level : Level) (name : String) : Option Effect :=
  match name, level with
  | "verbose", _ => some (.flag setVerbose)
  | "help", _ => some (.stop .help)
  | "version", .top => some (.stop .version)
  | "status", .validate => some (.flag setStatus)
  | "format", .validate => some (.valued setFormat)
  | "format", .features => some (.valued setFormat)
  | "jitter-factor", .validate => some (.valued setJitter)
  | _, _ => none

def shortOption? (level : Level) (name : Char) : Option Effect :=
  match name, level with
  | 'v', _ => some (.flag setVerbose)
  | 'h', _ => some (.stop .help)
  | 'V', .top => some (.stop .version)
  | _, _ => none

def orUsage {α : Type} : Option α → Except Stop α
  | some value => .ok value
  | none => .error .usage

/-- Options of one letter each behind a single hyphen. -/
def readShort (level : Level) (settings : Settings) : List Char → Except Stop Settings
  | [] => .ok settings
  | name :: rest => match shortOption? level name with
    | some (.stop stop) => .error stop
    | some (.flag set) => do readShort level (← orUsage (set settings)) rest
    | _ => .error .usage

inductive Argument where
  | separator
  | long (name : String) (value : Option String)
  | short (names : List Char)
  | plain

def Argument.ofText (text : String) : Argument :=
  match text.toList with
  | ['-', '-'] => separator
  | '-' :: '-' :: rest =>
    let value := match rest.dropWhile (· ≠ '=') with
      | [] => none
      | _ :: value => some (String.ofList value)
    long (String.ofList (rest.takeWhile (· ≠ '='))) value
  | '-' :: name :: rest => short (name :: rest)
  | _ => plain

def Argument.isPlain : Argument → Bool
  | plain => true
  | _ => false

def addFile (level : Level) (settings : Settings) (text : String) : Except Stop Settings :=
  if level = .validate ∧ text ≠ "" then .ok { settings with files := text :: settings.files }
  else .error .usage

def readSettings (level : Level) (settings : Settings) : List String → Except Stop Settings
  | [] => .ok settings
  | text :: rest => match Argument.ofText text with
    | .separator => rest.foldlM (addFile level) settings
    | .short names => do readSettings level (← readShort level settings names) rest
    | .plain => do readSettings level (← addFile level settings text) rest
    | .long name value => match longOption? level name, value with
      | some (.stop stop), none => .error stop
      | some (.flag set), none => do readSettings level (← orUsage (set settings)) rest
      | some (.valued set), some value =>
        do readSettings level (← orUsage (set value settings)) rest
      | some (.valued set), none => match rest with
        | value :: rest =>
          if (Argument.ofText value).isPlain then
            do readSettings level (← orUsage (set value settings)) rest
          else .error .usage
        | [] => .error .usage
      | _, _ => .error .usage

def readValidate (arguments : List String) : Except Stop Command := do
  let settings ← readSettings .validate {} arguments
  if settings.files = [] then throw .usage
  return .validate settings.files.reverse settings.status (settings.format.getD .text)
    settings.jitter

def readFeatures (arguments : List String) : Except Stop Command := do
  let settings ← readSettings .features {} arguments
  return .features (settings.format.getD .text)

def read (settings : Settings) : List String → Except Stop Command
  | [] => .error .usage
  | text :: rest => match Argument.ofText text with
    | .separator => .error .usage
    | .short names => do read (← readShort .top settings names) rest
    | .long name value => match longOption? .top name, value with
      | some (.stop stop), none => .error stop
      | some (.flag set), none => do read (← orUsage (set settings)) rest
      | _, _ => .error .usage
    | .plain =>
      if text = "validate" then readValidate rest
      else if text = "features" then readFeatures rest
      else .error .usage

end FederationConfig.CommandLine
