import FederationConfig.CommandLine.Run
import FederationConfig.Proofs.Jitter
import FederationConfig.Proofs.Report.Verdict

/-!
Validations of several files in one run. Each file is reported on as in a run of its own, and the
run succeeds if and only if all files are valid.
-/

namespace FederationConfig

namespace Json

def entriesText (items : List Json) : String :=
  newline 1 ++ ("," ++ newline 1).intercalate (renderIndentedItems 1 items)

theorem renderIndentedItems_append (depth : Nat) (front back : List Json) :
    renderIndentedItems depth (front ++ back) =
      renderIndentedItems depth front ++ renderIndentedItems depth back := by
  induction front with
  | nil => rfl
  | cons item front ih => rw [List.cons_append, renderIndentedItems, renderIndentedItems, ih,
      List.cons_append]

theorem renderIndentedItems_ne_nil (depth : Nat) {items : List Json} (given : items ≠ []) :
    renderIndentedItems depth items ≠ [] := by
  obtain ⟨item, rest, rfl⟩ := List.exists_cons_of_ne_nil given
  exact List.cons_ne_nil _ _

theorem renderIndented_list {items : List Json} (given : items ≠ []) :
    (list items).renderIndented 0 = "[" ++ entriesText items ++ "\n]" := by
  rw [renderIndented, block, if_neg (renderIndentedItems_ne_nil _ given), bracket, entriesText]
  simp only [String.append_assoc]
  rfl

theorem entriesText_append {front back : List Json} (given : front ≠ []) (more : back ≠ []) :
    entriesText (front ++ back) = entriesText front ++ "," ++ entriesText back := by
  rw [entriesText, renderIndentedItems_append, String.intercalate_append_of_ne_nil
    (renderIndentedItems_ne_nil _ given) (renderIndentedItems_ne_nil _ more)]
  simp only [entriesText, String.append_assoc]

end Json

namespace CommandLine

theorem joinLines_append (front back : List String) :
    joinLines (front ++ back) = joinLines front ++ joinLines back := by
  rw [joinLines, List.map_append, String.join_append]
  rfl

/-- The policy of a validation with a status flag and a factor, if one is given. -/
def policyOf (status : Bool) (jitter : Option JitterFactor) : Policy :=
  { pass := passOf status, jitter := jitter.getD .default }

/-- A validation whose factor, if one is given, is a valid one. -/
def validation (files : FileSystem) (status : Bool) (jitter : Option JitterFactor)
    (format : OutputFormat) (paths : List FilePath) : Outcome :=
  Command.run files (.validate paths status format (jitter.map JitterFactor.value))

theorem jitterOf_value (jitter : Option JitterFactor) :
    jitterOf (jitter.map JitterFactor.value) = .ok (jitter.getD .default) := by
  cases jitter with
  | none => rfl
  | some factor =>
      obtain ⟨value, positive⟩ := factor
      simp [jitterOf, JitterFactor.ofNumber?, positive]

section

variable {files : FileSystem} {status : Bool} {jitter : Option JitterFactor}

theorem validation_eq (format : OutputFormat) (paths : List FilePath) :
    validation files status jitter format paths =
      validateFiles files (policyOf status jitter) format paths := by
  rw [validation, Command.run, jitterOf_value]
  rfl

theorem validation_text_append (front back : List FilePath) :
    (validation files status jitter .text (front ++ back)).output =
      (validation files status jitter .text front).output ++
        (validation files status jitter .text back).output := by
  simp only [validation_eq, validateFiles, renderReports, List.map_append, List.flatMap_append,
    joinLines_append]

def reportObjects (files : FileSystem) (policy : Policy) (paths : List FilePath) : List Json :=
  paths.map fun path => (FileReport.ofFile files policy path).toJson

theorem reportObjects_append (policy : Policy) (front back : List FilePath) :
    reportObjects files policy (front ++ back) =
      reportObjects files policy front ++ reportObjects files policy back :=
  List.map_append

theorem validation_json (paths : List FilePath) :
    (validation files status jitter .json paths).output =
      renderDocument (.list (reportObjects files (policyOf status jitter) paths)) := by
  rw [validation_eq, validateFiles, renderReports, List.map_map]
  rfl

theorem reportObjects_ne_nil {policy : Policy} {paths : List FilePath} (given : paths ≠ []) :
    reportObjects files policy paths ≠ [] := by
  rwa [reportObjects, ne_eq, List.map_eq_nil_iff]

theorem renderDocument_list {items : List Json} (given : items ≠ []) :
    renderDocument (.list items) = "[" ++ Json.entriesText items ++ "\n]\n" := by
  rw [renderDocument, Json.renderIndented_list given]
  simp only [String.append_assoc]
  rfl

theorem validation_json_append {front back : List FilePath} (given : front ≠ [])
    (more : back ≠ []) :
    ∃ first second : String,
      (validation files status jitter .json front).output = "[" ++ first ++ "\n]\n" ∧
      (validation files status jitter .json back).output = "[" ++ second ++ "\n]\n" ∧
      (validation files status jitter .json (front ++ back)).output =
        "[" ++ first ++ "," ++ second ++ "\n]\n" := by
  have first : reportObjects files (policyOf status jitter) front ≠ [] :=
    reportObjects_ne_nil given
  have second : reportObjects files (policyOf status jitter) back ≠ [] :=
    reportObjects_ne_nil more
  refine ⟨_, _, (validation_json front).trans (renderDocument_list first),
    (validation_json back).trans (renderDocument_list second), ?_⟩
  rw [validation_json, reportObjects_append,
    renderDocument_list (List.append_ne_nil_of_left_ne_nil first _),
    Json.entriesText_append first second]
  simp only [String.append_assoc]

theorem validation_code_eq_zero (format : OutputFormat) (paths : List FilePath) :
    (validation files status jitter format paths).code = 0 ↔
      ∀ path ∈ paths, (FileReport.ofFile files (policyOf status jitter) path).isValid := by
  rw [validation_eq, validateFiles]
  simp

theorem validation_code_append (format : OutputFormat) (front back : List FilePath) :
    (validation files status jitter format (front ++ back)).code = 0 ↔
      (validation files status jitter format front).code = 0 ∧
        (validation files status jitter format back).code = 0 := by
  simp only [validation_code_eq_zero, List.forall_mem_append]

theorem validation_code_text (paths : List FilePath) :
    (validation files status jitter .text paths).code =
      (validation files status jitter .json paths).code := by
  rw [validation_eq, validation_eq]
  rfl

theorem validation_text_of_error {path : FilePath} {error : LoadError}
    (failed : Loading.manifests files path = .error error) :
    (validation files status jitter .text [path]).output =
      path.display ++ ": " ++ error.message ++ "\n" := by
  rw [validation_eq, validateFiles, List.map_singleton, FileReport.ofFile_of_error failed]
  simp [renderReports, FileReport.lines, joinLines]

theorem validation_text_around {path : FilePath} {error : LoadError} (front back : List FilePath)
    (failed : Loading.manifests files path = .error error) :
    (validation files status jitter .text (front ++ path :: back)).output =
      (validation files status jitter .text front).output ++
        (path.display ++ ": " ++ error.message ++ "\n") ++
        (validation files status jitter .text back).output := by
  have parts : front ++ path :: back = front ++ [path] ++ back := List.append_cons front path back
  rw [parts, validation_text_append, validation_text_append, validation_text_of_error failed]

theorem run_of_invalid_jitter {value : Binary64}
    (invalid : value.isFinite = false ∨ (Binary64.zero false).less value = false)
    (format : OutputFormat) (paths : List FilePath) :
    Command.run files (.validate paths status format (some value)) =
      ⟨1, "", JitterFactor.rejection value ++ "\n"⟩ := by
  have rejected : value.isPositiveFinite = false := by
    rw [Binary64.isPositiveFinite_eq, Bool.and_eq_false_iff]
    exact invalid
  simp [Command.run, jitterOf, JitterFactor.ofNumber?, rejected]

end

/-- A run over files is made of the runs over its parts, whether they succeed or not, and succeeds
itself if and only if all documents of all files are sound, whatever the format. A factor that is
not finite or not positive stops it before anything is printed. -/
theorem validation_joins_runs (files : FileSystem) (status : Bool) (jitter : Option JitterFactor) :
    let run := validation files status jitter
    let policy := policyOf status jitter
    (∀ front back, (run .text (front ++ back)).output =
      (run .text front).output ++ (run .text back).output) ∧
    (∀ paths, (run .json paths).output =
      renderDocument (.list (reportObjects files policy paths))) ∧
    (∀ front back, reportObjects files policy (front ++ back) =
      reportObjects files policy front ++ reportObjects files policy back) ∧
    (∀ front back, front ≠ [] → back ≠ [] → ∃ first second : String,
      (run .json front).output = "[" ++ first ++ "\n]\n" ∧
      (run .json back).output = "[" ++ second ++ "\n]\n" ∧
      (run .json (front ++ back)).output = "[" ++ first ++ "," ++ second ++ "\n]\n") ∧
    (∀ format front back, (run format (front ++ back)).code = 0 ↔
      (run format front).code = 0 ∧ (run format back).code = 0) ∧
    (∀ paths, (run .text paths).code = (run .json paths).code) ∧
    (∀ format paths, (run format paths).code = 0 ↔ ∀ path ∈ paths,
      ∃ found, Loading.manifests files path = .ok found ∧
        ∀ manifest ∈ found, manifest.violations policy = []) ∧
    (∀ front path back error, Loading.manifests files path = .error error →
      (run .text (front ++ path :: back)).output = (run .text front).output ++
        (path.display ++ ": " ++ error.message ++ "\n") ++ (run .text back).output) ∧
    ∀ value : Binary64, value.isFinite = false ∨ (Binary64.zero false).less value = false →
      ∀ format paths, (Command.run files (.validate paths status format (some value))).output = "" ∧
        (Command.run files (.validate paths status format (some value))).code = 1 := by
  intro run policy
  refine ⟨validation_text_append, validation_json, reportObjects_append policy,
    fun _ _ => validation_json_append, validation_code_append, validation_code_text,
    fun format paths => ?_, fun front _ back _ => validation_text_around front back,
    fun value invalid format paths => ?_⟩
  · simp only [run, validation_code_eq_zero, FileReport.isValid_ofFile, policy]
  · rw [run_of_invalid_jitter invalid]
    exact ⟨rfl, rfl⟩

theorem validation_of_absent_files :
    let absent : FileSystem := fun _ => .error .notFound
    let run := validation absent false none
    let missing := "config io error: No such file or directory (os error 2)\n"
    (run .text ["a.yaml", "b.yaml"]).output = "a.yaml: " ++ missing ++ "b.yaml: " ++ missing ∧
    (∃ first second : String,
      (run .json ["a.yaml"]).output = "[" ++ first ++ "\n]\n" ∧
      (run .json ["b.yaml"]).output = "[" ++ second ++ "\n]\n" ∧
      (run .json ["a.yaml", "b.yaml"]).output = "[" ++ first ++ "," ++ second ++ "\n]\n") ∧
    (Command.run absent (.validate ["a.yaml"] false .text (some .nan))).output = "" := by
  intro absent run missing
  obtain ⟨_, _, _, arrays, _, _, _, around, invalid⟩ := validation_joins_runs absent false none
  have failed : Loading.manifests absent "a.yaml" = .error (.unreadable .notFound) := rfl
  refine ⟨(around [] "a.yaml" ["b.yaml"] _ failed).trans ?_,
    arrays ["a.yaml"] ["b.yaml"] (List.cons_ne_nil _ _) (List.cons_ne_nil _ _),
    (invalid .nan (.inl rfl) .text ["a.yaml"]).1⟩
  decide +kernel

end CommandLine

end FederationConfig
