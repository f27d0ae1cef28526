import FederationConfig.Loading.Basic
import FederationConfig.Proofs.Outcome

/-!
The stages of loading. A file is read only at a path within its limits, decoded only within the
limit of its size, and taken for the configuration of an operator only if it holds that one
document. The error of a load is the one of the first stage that fails.
-/

namespace FederationConfig.Loading

def Fits (path : FilePath) : Prop :=
  path.bytes.length ≤ greatestPathLength ∧
    ∀ part ∈ pathParts path, part.length ≤ greatestPartLength

def Gives (files : FileSystem) (path : FilePath) (content : ByteArray) : Prop :=
  Fits path ∧ files path = .ok content

/-- A file that can be read is small enough and in UTF-8. -/
def Decodes (files : FileSystem) (path : FilePath) (text : String) : Prop :=
  ∃ content, Gives files path content ∧ content.size ≤ greatestFileSize ∧
    String.fromUTF8? content = some text

def Holds (files : FileSystem) (path : FilePath) (found : List Manifest) : Prop :=
  ∃ text, Decodes files path text ∧ Manifest.readAll (.ofPath path) text = .ok found

/-- The stage at which a load fails, and its error. All stages in front of it have passed. -/
inductive Refuses (files : FileSystem) (path : FilePath) : LoadStage → LoadError → Prop
  | pathTooLong (long : greatestPathLength < path.bytes.length) :
      Refuses files path .limit .pathTooLong
  | partTooLong (inside : path.bytes.length ≤ greatestPathLength) (part : PathPart)
      (member : part ∈ pathParts path) (long : greatestPartLength < part.length) :
      Refuses files path .limit .partTooLong
  | unreadable (fits : Fits path) (fault : FileFault) (read : files path = .error fault) :
      Refuses files path .io (.unreadable fault)
  | fileTooLong (content : ByteArray) (given : Gives files path content)
      (long : greatestFileSize < content.size) :
      Refuses files path .limit .fileTooLong
  | notUtf8 (content : ByteArray) (given : Gives files path content)
      (inside : content.size ≤ greatestFileSize) (undecoded : String.fromUTF8? content = none) :
      Refuses files path .parse .notUtf8
  | noManifest (text : String) (decodes : Decodes files path text) (fault : ManifestFault)
      (read : Manifest.readAll (.ofPath path) text = .error fault) :
      Refuses files path .parse (.noManifest (.ofPath path) text fault)
  | documentCount (found : List Manifest) (held : Holds files path found)
      (several : found.length ≠ 1) :
      Refuses files path .parse (.documentCount found.length)
  | otherKind (manifest : Manifest) (held : Holds files path [manifest])
      (other : manifest.kind ≠ .operatorConfig) :
      Refuses files path .parse (.otherKind manifest.kind)
  | rejected (config : OperatorConfig) (held : Holds files path [.operatorConfig config])
      (broken : config.violations .default .default ≠ []) :
      Refuses files path .validation (.rejected (config.violations .default .default))

theorem checkPath_eq (path : FilePath) :
    checkPath path =
      if greatestPathLength < path.bytes.length then .error .pathTooLong
      else if ∃ part ∈ pathParts path, greatestPartLength < part.length then .error .partTooLong
      else .ok () := by
  simp only [checkPath, isPathTooLong, hasPartTooLong, List.any_eq_true, decide_eq_true_eq]

theorem checkPath_of_long {path : FilePath} (long : greatestPathLength < path.bytes.length) :
    checkPath path = .error .pathTooLong := by
  rw [checkPath_eq, if_pos long]

theorem checkPath_of_fits {path : FilePath} (fits : Fits path) : checkPath path = .ok () := by
  have short : ¬ ∃ part ∈ pathParts path, greatestPartLength < part.length :=
    fun ⟨part, member, long⟩ => Nat.not_le.mpr long (fits.2 part member)
  rw [checkPath_eq, if_neg (Nat.not_lt.mpr fits.1), if_neg short]

theorem checkPath_refuses {files : FileSystem} {path : FilePath} {error : LoadError}
    (failed : checkPath path = .error error) : Refuses files path error.stage error := by
  rw [checkPath_eq] at failed
  split at failed
  case isTrue long =>
    cases failed
    exact .pathTooLong long
  case isFalse inside =>
    split at failed
    case isTrue found =>
      obtain ⟨part, member, long⟩ := found
      cases failed
      exact .partTooLong (Nat.not_lt.mp inside) part member long
    case isFalse => cases failed

theorem fits_of_checkPath {path : FilePath} (passed : checkPath path = .ok ()) : Fits path := by
  rw [checkPath_eq] at passed
  split at passed
  · cases passed
  case isFalse inside =>
    split at passed
    · cases passed
    case isFalse short =>
      exact ⟨Nat.not_lt.mp inside, fun part member =>
        Nat.not_lt.mp fun long => short ⟨part, member, long⟩⟩

variable {files : FileSystem} {path : FilePath}

theorem readText_of_gives {content : ByteArray} (given : Gives files path content) :
    readText files path =
      if greatestFileSize < content.size then .error .fileTooLong
      else match String.fromUTF8? content with
        | none => .error .notUtf8
        | some text => .ok text := by
  rw [readText, checkPath_of_fits given.1, given.2]
  show (if greatestFileSize < content.size then _ else _) = _
  split
  · rfl
  · cases String.fromUTF8? content <;> rfl

theorem readText_of_checkPath {error : LoadError} (failed : checkPath path = .error error) :
    readText files path = .error error := by
  rw [readText, failed]
  rfl

theorem readText_of_unreadable {fault : FileFault} (fits : Fits path)
    (read : files path = .error fault) : readText files path = .error (.unreadable fault) := by
  rw [readText, checkPath_of_fits fits, read]
  rfl

theorem readText_outcome (files : FileSystem) (path : FilePath) :
    match readText files path with
    | .ok text => Decodes files path text
    | .error error => Refuses files path error.stage error := by
  cases checked : checkPath path with
  | error error =>
      rw [readText_of_checkPath checked]
      exact checkPath_refuses checked
  | ok =>
      have fits := fits_of_checkPath checked
      cases read : files path with
      | error fault =>
          rw [readText_of_unreadable fits read]
          exact .unreadable fits fault read
      | ok content =>
          have given : Gives files path content := ⟨fits, read⟩
          rw [readText_of_gives given]
          by_cases long : greatestFileSize < content.size
          · rw [if_pos long]
            exact .fileTooLong content given long
          · have inside := Nat.not_lt.mp long
            rw [if_neg long]
            cases decoded : String.fromUTF8? content with
            | none => exact .notUtf8 content given inside decoded
            | some text => exact ⟨content, given, inside, decoded⟩

theorem readText_eq_ok {text : String} :
    readText files path = .ok text ↔ Decodes files path text := by
  constructor
  · intro read
    have outcome := readText_outcome files path
    rwa [read] at outcome
  · rintro ⟨content, given, inside, decoded⟩
    rw [readText_of_gives given, if_neg (Nat.not_lt.mpr inside), decoded]

theorem readText_refuses {error : LoadError} (failed : readText files path = .error error) :
    Refuses files path error.stage error := by
  have outcome := readText_outcome files path
  rwa [failed] at outcome

theorem manifests_eq_ok {found : List Manifest} :
    manifests files path = .ok found ↔ Holds files path found := by
  simp only [manifests, bind_eq_ok, mapError_eq_ok, readText_eq_ok, Holds]

theorem manifests_of_decodes {text : String} (decodes : Decodes files path text) :
    manifests files path = (Manifest.readAll (.ofPath path) text).mapError
      (.noManifest (.ofPath path) text) := by
  rw [manifests, readText_eq_ok.mpr decodes]
  rfl

theorem manifests_of_readText {error : LoadError} (failed : readText files path = .error error) :
    manifests files path = .error error := by
  rw [manifests, failed]
  rfl

theorem manifests_refuses {error : LoadError} (failed : manifests files path = .error error) :
    Refuses files path error.stage error := by
  cases read : readText files path with
  | error cause =>
      rw [manifests_of_readText read] at failed
      cases failed
      exact readText_refuses read
  | ok text =>
      have decodes := readText_eq_ok.mp read
      rw [manifests_of_decodes decodes] at failed
      obtain ⟨fault, undecoded, rfl⟩ := mapError_eq_error.mp failed
      exact .noManifest text decodes fault undecoded

theorem operatorOf_eq_ok {found : List Manifest} {config : OperatorConfig} :
    operatorOf found = .ok config ↔ found = [.operatorConfig config] := by
  constructor
  · intro taken
    unfold operatorOf at taken
    split at taken <;> cases taken
    rfl
  · rintro rfl
    rfl

theorem operatorOf_refuses {found : List Manifest} {error : LoadError}
    (held : Holds files path found) (failed : operatorOf found = .error error) :
    Refuses files path error.stage error := by
  unfold operatorOf at failed
  split at failed <;> cases failed
  case h_2 manifest notOperator =>
    refine .otherKind manifest held ?_
    intro same
    cases manifest with
    | typeConfig config => cases same
    | operatorConfig config => exact notOperator config rfl
  case h_3 _ notSingle =>
    refine .documentCount found held ?_
    intro single
    obtain ⟨manifest, rfl⟩ := List.length_eq_one_iff.mp single
    exact notSingle manifest rfl

theorem checkOperator_eq (config : OperatorConfig) :
    checkOperator config =
      if config.violations .default .default = [] then .ok config
      else .error (.rejected (config.violations .default .default)) := by
  unfold checkOperator
  cases config.violations .default .default <;> rfl

def operatorAt (files : FileSystem) (path : FilePath) : Except LoadError OperatorConfig := do
  let found ← manifests files path
  let config ← operatorOf found
  checkOperator config

def resolve (given : Option FilePath) (environment : Option String) : FilePath :=
  match given, environment with
  | some path, _ => path
  | none, some path => path
  | none, none => defaultPath

/-- A path in the environment that is too long is refused before the others, but with the error
that it has among them. -/
theorem operator_eq_operatorAt (files : FileSystem) (given : Option FilePath)
    (environment : Option String) :
    operator files given environment = operatorAt files (resolve given environment) := by
  cases given with
  | some path => rfl
  | none =>
      cases environment with
      | none => rfl
      | some name =>
          by_cases long : greatestPathLength < (FilePath.ofText name).bytes.length
          · have failed : manifests files name = .error .pathTooLong :=
              manifests_of_readText (readText_of_checkPath (checkPath_of_long long))
            rw [operator, choosePath, isPathTooLong, if_pos (decide_eq_true long), operatorAt,
              resolve, failed]
            rfl
          · rw [operator, choosePath, isPathTooLong, decide_eq_false long]
            rfl

theorem operatorAt_eq_ok {config : OperatorConfig} :
    operatorAt files path = .ok config ↔
      Holds files path [.operatorConfig config] ∧ config.violations .default .default = [] := by
  simp only [operatorAt, bind_eq_ok, manifests_eq_ok, operatorOf_eq_ok, checkOperator_eq]
  constructor
  · rintro ⟨found, held, taken, rfl, passed⟩
    split at passed
    case isTrue sound =>
      cases passed
      exact ⟨held, sound⟩
    case isFalse => cases passed
  · rintro ⟨held, sound⟩
    exact ⟨_, held, config, rfl, by rw [if_pos sound]⟩

theorem operatorAt_of_manifests {error : LoadError} (failed : manifests files path = .error error) :
    operatorAt files path = .error error := by
  rw [operatorAt, failed]
  rfl

theorem operatorAt_of_readText {error : LoadError} (failed : readText files path = .error error) :
    operatorAt files path = .error error :=
  operatorAt_of_manifests (manifests_of_readText failed)

theorem operatorAt_of_holds {found : List Manifest} (held : Holds files path found) :
    operatorAt files path = operatorOf found >>= checkOperator := by
  rw [operatorAt, manifests_eq_ok.mpr held]
  rfl

theorem operatorAt_refuses {error : LoadError} (failed : operatorAt files path = .error error) :
    Refuses files path error.stage error := by
  rw [operatorAt, bind_eq_error] at failed
  rcases failed with failed | ⟨found, loaded, failed⟩
  · exact manifests_refuses failed
  · have held := manifests_eq_ok.mp loaded
    rcases bind_eq_error.mp failed with failed | ⟨config, taken, failed⟩
    · exact operatorOf_refuses held failed
    · rw [operatorOf_eq_ok.mp taken] at held
      rw [checkOperator_eq] at failed
      split at failed
      case isTrue => cases failed
      case isFalse broken =>
        cases failed
        exact .rejected config held broken

theorem operatorAt_of_refuses {stage : LoadStage} {error : LoadError}
    (refused : Refuses files path stage error) :
    operatorAt files path = .error error ∧ error.stage = stage := by
  -- The cases are the stages that refuse; what has passed in front of them is evaluated.
  cases refused with
  | pathTooLong long =>
      have checked := checkPath_of_long long
      exact ⟨operatorAt_of_readText (readText_of_checkPath checked), rfl⟩
  | partTooLong inside part member long =>
      have checked : checkPath path = .error .partTooLong := by
        rw [checkPath_eq, if_neg (Nat.not_lt.mpr inside), if_pos ⟨part, member, long⟩]
      exact ⟨operatorAt_of_readText (readText_of_checkPath checked), rfl⟩
  | unreadable fits fault read =>
      have failed := readText_of_unreadable fits read
      exact ⟨operatorAt_of_readText failed, rfl⟩
  | fileTooLong content given long =>
      have failed := readText_of_gives given
      rw [if_pos long] at failed
      exact ⟨operatorAt_of_readText failed, rfl⟩
  | notUtf8 content given inside undecoded =>
      have failed := readText_of_gives given
      rw [if_neg (Nat.not_lt.mpr inside), undecoded] at failed
      exact ⟨operatorAt_of_readText failed, rfl⟩
  | noManifest text decodes fault read =>
      have failed := manifests_of_decodes decodes
      rw [read] at failed
      exact ⟨operatorAt_of_manifests failed, rfl⟩
  | documentCount found held several =>
      have failed : operatorOf found = .error (.documentCount found.length) := by
        unfold operatorOf
        split
        · exact absurd rfl several
        · exact absurd rfl several
        · rfl
      rw [operatorAt_of_holds held, failed]
      exact ⟨rfl, rfl⟩
  | otherKind manifest held other =>
      rw [operatorAt_of_holds held]
      cases manifest with
      | typeConfig config => exact ⟨rfl, rfl⟩
      | operatorConfig config => exact absurd rfl other
  | rejected config held broken =>
      rw [operatorAt_of_holds held]
      show checkOperator config = _ ∧ _
      rw [checkOperator_eq, if_neg broken]
      exact ⟨rfl, rfl⟩

theorem operatorAt_eq_error {error : LoadError} :
    operatorAt files path = .error error ↔ Refuses files path error.stage error :=
  ⟨operatorAt_refuses, fun refused => (operatorAt_of_refuses refused).1⟩

theorem Refuses.unique {stage other : LoadStage} {error cause : LoadError}
    (refused : Refuses files path stage error) (again : Refuses files path other cause) :
    stage = other ∧ error = cause := by
  obtain ⟨failed, shown⟩ := operatorAt_of_refuses refused
  obtain ⟨failedToo, shownToo⟩ := operatorAt_of_refuses again
  rw [failed] at failedToo
  cases failedToo
  exact ⟨shown.symm.trans shownToo, rfl⟩

theorem operatorAt_eq_rejected {violations : Violations} :
    operatorAt files path = .error (.rejected violations) ↔
      violations ≠ [] ∧ ∃ config, Holds files path [.operatorConfig config] ∧
        config.violations .default .default = violations := by
  rw [operatorAt_eq_error]
  constructor
  · intro refused
    cases refused with
    | rejected config held broken => exact ⟨broken, config, held, rfl⟩
  · rintro ⟨broken, config, held, rfl⟩
    exact .rejected config held broken

/-- Loading gives the sound configuration that is the only document of a file within all limits.
Any other load ends with the error of the first stage that does not pass. -/
theorem operator_fails_closed (files : FileSystem) (given : Option FilePath)
    (environment : Option ByteArray) :
    let path := resolve given (environmentText environment)
    let outcome := operator files given (environmentText environment)
    (∀ config, outcome = .ok config ↔
      path.bytes.length ≤ greatestPathLength ∧
      (∀ part ∈ pathParts path, part.length ≤ greatestPartLength) ∧
      ∃ content text, files path = .ok content ∧ content.size ≤ greatestFileSize ∧
        String.fromUTF8? content = some text ∧
        Manifest.readAll (.ofPath path) text = .ok [.operatorConfig config] ∧
        config.violations .default .default = []) ∧
    (∀ error, outcome = .error error ↔ Refuses files path error.stage error) ∧
    (∀ violations, outcome = .error (.rejected violations) ↔
      violations ≠ [] ∧ ∃ config, Holds files path [.operatorConfig config] ∧
        config.violations .default .default = violations) := by
  intro path outcome
  have same : outcome = operatorAt files path := operator_eq_operatorAt files given _
  rw [same]
  refine ⟨fun config => ?_, fun error => operatorAt_eq_error, fun _ => operatorAt_eq_rejected⟩
  rw [operatorAt_eq_ok]
  constructor
  · rintro ⟨⟨text, ⟨content, ⟨fits, read⟩, inside, decoded⟩, found⟩, sound⟩
    exact ⟨fits.1, fits.2, content, text, read, inside, decoded, found, sound⟩
  · rintro ⟨short, shortParts, content, text, read, inside, decoded, found, sound⟩
    exact ⟨⟨text, ⟨content, ⟨⟨short, shortParts⟩, read⟩, inside, decoded⟩, found⟩, sound⟩

theorem operator_accepts_listed_document :
    let text := "[\"KubeFedConfig\",\"\",[],[\"Cluster\",[\"1s\",\"1s\"]," ++
      "[\"3s\",\"2s\",\"1s\",\"configmaps\"],[],[1,1,1,1],[\"Enabled\"]]]"
    let config : OperatorConfig := { spec := {
      scope := .known .cluster
      clusterDelays := ⟨⟨10 ^ 9⟩, ⟨10 ^ 9⟩⟩
      leaderElection := ⟨⟨3 * 10 ^ 9⟩, ⟨2 * 10 ^ 9⟩, ⟨10 ^ 9⟩, .known .configMaps⟩
      healthCheck := ⟨1, 1, 1, 1⟩
      syncPolicy := ⟨.known .enabled⟩ } }
    operator (fun _ => .ok text.toUTF8) (some "federation.json") (environmentText none) =
      .ok config := by
  intro text config
  have decoded : String.fromUTF8? text.toUTF8 = some text := by decide +kernel
  have read : Manifest.readAll .json text = .ok [.operatorConfig config] :=
    eq_ok_of_toOption (by decide +kernel)
  have format : ManifestFormat.ofPath "federation.json" = .json := by decide +kernel
  refine ((operator_fails_closed (fun _ => .ok text.toUTF8) (some "federation.json") none).1
    config).mpr ⟨by decide +kernel, by decide +kernel, text.toUTF8, text, rfl, by decide +kernel,
      decoded, ?_, by decide +kernel⟩
  show Manifest.readAll (.ofPath "federation.json") text = _
  rw [format]
  exact read

end FederationConfig.Loading
