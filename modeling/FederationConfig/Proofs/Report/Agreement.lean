import FederationConfig.Proofs.Report.Verdict

namespace FederationConfig

/-- Whether an error is one of the file itself, whatever its documents should be. -/
def LoadError.concernsFile : LoadError → Bool
  | pathTooLong => true
  | partTooLong => true
  | unreadable _ => true
  | fileTooLong => true
  | notUtf8 => true
  | noManifest .. => true
  | documentCount _ => false
  | otherKind _ => false
  | rejected _ => false

namespace Loading

variable {files : FileSystem} {path : FilePath}

theorem concernsFile_of_manifests {error : LoadError}
    (failed : manifests files path = .error error) : error.concernsFile := by
  have loaded {found : List Manifest} (held : Holds files path found) : False := by
    rw [manifests_eq_ok.mpr held] at failed
    cases failed
  have refused := manifests_refuses failed
  generalize error.stage = stage at refused
  cases refused with
  | documentCount found held => exact (loaded held).elim
  | otherKind manifest held => exact (loaded held).elim
  | rejected config held => exact (loaded held).elim
  | _ => rfl

theorem not_concernsFile_of_operatorOf {found : List Manifest} {error : LoadError}
    (failed : operatorOf found = .error error) : error.concernsFile = false := by
  unfold operatorOf at failed
  split at failed <;> cases failed <;> rfl

theorem not_concernsFile_of_checkOperator {config : OperatorConfig} {error : LoadError}
    (failed : checkOperator config = .error error) : error.concernsFile = false := by
  rw [checkOperator_eq] at failed
  split at failed <;> cases failed
  rfl

theorem operatorAt_eq_error_of_file {error : LoadError} :
    operatorAt files path = .error error ∧ error.concernsFile ↔
      manifests files path = .error error := by
  constructor
  · rintro ⟨failed, concerned⟩
    rcases bind_eq_error.mp failed with early | ⟨found, loaded, failed⟩
    · exact early
    · rcases bind_eq_error.mp failed with other | ⟨config, taken, broken⟩
      · rw [not_concernsFile_of_operatorOf other] at concerned
        cases concerned
      · rw [not_concernsFile_of_checkOperator broken] at concerned
        cases concerned
  · intro failed
    exact ⟨operatorAt_of_manifests failed, concernsFile_of_manifests failed⟩

end Loading

namespace FileReport

variable {files : FileSystem} {policy : Policy} {path : FilePath}

theorem error_eq_some_iff {text : String} :
    (ofFile files policy path).error = some text ↔
      ∃ error, Loading.manifests files path = .error error ∧ error.message = text := by
  cases outcome : Loading.manifests files path with
  | error error => simp [ofFile_of_error outcome]
  | ok found => simp [ofFile_of_ok outcome, ofManifests]

theorem error_eq_none_of_single {document : DocumentReport}
    (single : (ofFile files policy path).documents = [document]) :
    (ofFile files policy path).error = none := by
  rcases error_eq_none_or_documents_eq_nil files policy path with none | empty
  · exact none
  · rw [empty] at single
    cases single

theorem isValid_of_single {document : DocumentReport}
    (single : (ofFile files policy path).documents = [document]) :
    (ofFile files policy path).isValid ↔ document.violations = [] := by
  rw [isValid, error_eq_none_of_single single, single]
  simp [DocumentReport.isValid]

theorem single_iff (files : FileSystem) (policy : Policy) (path : FilePath)
    (holds : Violations → Prop) :
    (∃ document, (ofFile files policy path).documents = [document] ∧
        document.kind = .operatorConfig ∧ holds document.violations) ↔
      ∃ config, Loading.Holds files path [.operatorConfig config] ∧
        holds (config.violations policy.jitter policy.registry) := by
  simp only [← Loading.manifests_eq_ok]
  cases outcome : Loading.manifests files path with
  | error error => simp [ofFile_of_error outcome]
  | ok found =>
      rw [ofFile_of_ok outcome]
      simp only [documents_ofManifests_eq_singleton, Except.ok.injEq]
      constructor
      · rintro ⟨_, ⟨manifest, rfl, rfl⟩, kind, said⟩
        cases manifest with
        | typeConfig config => cases kind
        | operatorConfig config => exact ⟨config, rfl, said⟩
      · rintro ⟨config, rfl, said⟩
        exact ⟨_, ⟨_, rfl, rfl⟩, rfl, said⟩

end FileReport

/-- A load succeeds on the file whose report is valid and shows one document of the kind, it
rejects the file whose only document of the kind has violations, and it fails with the message of
every report that shows an error. -/
theorem operator_agrees_with_report (files : FileSystem) (path : FilePath)
    (environment : Option String) (pass : TypeConfig.Pass) :
    let report := FileReport.ofFile files { pass := pass } path
    let outcome := Loading.operator files (some path) environment
    ((∃ config, outcome = .ok config) ↔
      report.isValid ∧ ∃ document, report.documents = [document] ∧
        document.kind = .operatorConfig) ∧
    (∀ violations, outcome = .error (.rejected violations) ↔
      report.error = none ∧ ∃ document, report.documents = [document] ∧
        document.kind = .operatorConfig ∧ document.violations = violations ∧ violations ≠ []) ∧
    (∀ text, report.error = some text ↔
      ∃ error, outcome = .error error ∧ error.concernsFile ∧ error.message = text) ∧
    ∀ policy : Policy, (FileReport.ofFile files policy path).error = none ∨
      (FileReport.ofFile files policy path).documents = [] := by
  intro report outcome
  have same : outcome = Loading.operatorAt files path :=
    Loading.operator_eq_operatorAt files (some path) environment
  rw [same]
  refine ⟨?_, fun violations => ?_, fun text => ?_,
    fun policy => FileReport.error_eq_none_or_documents_eq_nil files policy path⟩
  · simp only [Loading.operatorAt_eq_ok]
    rw [← FileReport.single_iff files { pass := pass } path fun violations => violations = []]
    constructor
    · rintro ⟨document, single, kind, sound⟩
      exact ⟨(FileReport.isValid_of_single single).mpr sound, document, single, kind⟩
    · rintro ⟨valid, document, single, kind⟩
      exact ⟨document, single, kind, (FileReport.isValid_of_single single).mp valid⟩
  · have rejects := FileReport.single_iff files { pass := pass } path
      fun found => found = violations ∧ violations ≠ []
    constructor
    · intro rejected
      obtain ⟨broken, config, held, same⟩ := Loading.operatorAt_eq_rejected.mp rejected
      obtain ⟨document, single, said⟩ := rejects.mpr ⟨config, held, same, broken⟩
      exact ⟨FileReport.error_eq_none_of_single single, document, single, said⟩
    · rintro ⟨_, shown⟩
      obtain ⟨config, held, same, broken⟩ := rejects.mp shown
      exact Loading.operatorAt_eq_rejected.mpr ⟨broken, config, held, same⟩
  · rw [FileReport.error_eq_some_iff]
    simp only [← Loading.operatorAt_eq_error_of_file, and_assoc]

end FederationConfig
