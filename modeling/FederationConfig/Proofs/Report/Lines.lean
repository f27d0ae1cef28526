import FederationConfig.Proofs.Field.Visible
import FederationConfig.Proofs.Manifest.Legibility
import FederationConfig.Proofs.Report.Verdict

namespace FederationConfig

open Text (IsOf IsVisible Unbroken isVisible)

theorem Text.not_isLineBreak_of_isVisible {c : Char} (visible : isVisible c) :
    ¬ IsLineBreak c := by
  rintro (rfl | rfl)
  · cases visible
  · cases visible

theorem Text.IsVisible.unbroken {text : String} (visible : IsVisible text) : Unbroken text :=
  visible.mono fun _ => not_isLineBreak_of_isVisible

theorem ManifestKind.isVisible_name (kind : ManifestKind) : IsVisible kind.name := by
  cases kind <;> exact Text.isVisible_ofList rfl

namespace DocumentReport

variable {file : String} {report : DocumentReport}

theorem unbroken_heading_iff (oneLine : Unbroken file) :
    Unbroken (report.heading file) ↔ Unbroken report.name := by
  have bracket : Unbroken "[" := IsVisible.unbroken (Text.isVisible_ofList rfl)
  have index : Unbroken report.index.repr := (Text.isVisible_repr_nat _).unbroken
  have closing : Unbroken "] " := IsVisible.unbroken (Text.isVisible_ofList rfl)
  have slash : Unbroken "/" := IsVisible.unbroken (Text.isVisible_ofList rfl)
  have front := ((((oneLine.append bracket).append index).append closing).append
    report.kind.isVisible_name.unbroken).append slash
  rw [heading]
  exact IsOf.append_iff.trans (and_iff_right front)

theorem unbroken_append_iff (oneLine : Unbroken file) {comment : String}
    (plain : Unbroken comment) :
    Unbroken (report.heading file ++ comment) ↔ Unbroken report.name :=
  IsOf.append_iff.trans ((and_iff_left plain).trans (unbroken_heading_iff oneLine))

theorem length_lines (file : String) (report : DocumentReport) :
    (report.lines file).length = max 1 report.violations.length := by
  rw [lines]
  split
  case h_1 none => rw [none]; rfl
  case h_2 some =>
    have positive := List.length_pos_of_ne_nil some
    rw [List.length_map]
    omega

theorem unbroken_line_iff (oneLine : Unbroken file)
    (shown : ∀ violation ∈ report.violations, Unbroken violation.render) :
    ∀ line ∈ report.lines file, (Unbroken line ↔ Unbroken report.name) := by
  have colon : Unbroken ": " := IsVisible.unbroken (Text.isVisible_ofList rfl)
  intro line member
  rw [lines] at member
  split at member
  · rw [List.mem_singleton.mp member]
    exact unbroken_append_iff oneLine (IsVisible.unbroken (Text.isVisible_ofList rfl))
  · obtain ⟨violation, found, rfl⟩ := List.mem_map.mp member
    rw [String.append_assoc]
    exact unbroken_append_iff oneLine (colon.append (shown violation found))

end DocumentReport

theorem Manifest.unbroken_render {policy : Policy}
    (registered : ∀ name ∈ policy.registry.names, Unbroken name) (manifest : Manifest) :
    ∀ violation ∈ manifest.violations policy, Unbroken violation.render := by
  intro violation found
  have legible := manifest.isLegible_violations policy violation found
  exact legible.isOf_render (fun _ => Text.not_isLineBreak_of_isVisible) registered

namespace FileReport

/-- Each document has a line for each of its violations, or one if there are none. If the path and
the names of features have no line breaks, a line breaks exactly where the name of its document
does. -/
theorem lines_break_at_names (files : FileSystem) (policy : Policy) (path : FilePath)
    (registered : ∀ name ∈ policy.registry.names, Unbroken name)
    (oneLine : Unbroken path.display) (loaded : (ofFile files policy path).error = none) :
    (∀ document ∈ (ofFile files policy path).documents,
      (document.lines path.display).length = max 1 document.violations.length ∧
        ∀ line ∈ document.lines path.display, (Unbroken line ↔ Unbroken document.name)) ∧
      (ofFile files policy path).lines =
        (ofFile files policy path).documents.flatMap (DocumentReport.lines path.display) ∧
      ((∀ line ∈ (ofFile files policy path).lines, Unbroken line) ↔
        ∀ document ∈ (ofFile files policy path).documents, Unbroken document.name) := by
  cases outcome : Loading.manifests files path with
  | error error =>
      rw [ofFile_of_error outcome] at loaded
      cases loaded
  | ok found =>
      rw [ofFile_of_ok outcome]
      have each : ∀ document ∈ (ofManifests policy path.display found).documents,
          ∀ line ∈ document.lines path.display, (Unbroken line ↔ Unbroken document.name) := by
        intro document member
        obtain ⟨position, inside, rfl⟩ := List.mem_mapIdx.mp member
        exact DocumentReport.unbroken_line_iff oneLine
          (Manifest.unbroken_render registered found[position])
      refine ⟨fun document member => ⟨document.length_lines _, each document member⟩, rfl, ?_⟩
      constructor
      · intro unbroken document member
        have positive : 0 < (document.lines path.display).length := by
          rw [DocumentReport.length_lines]
          omega
        have first := List.getElem_mem positive
        exact (each document member _ first).mp
          (unbroken _ (List.mem_flatMap.mpr ⟨document, member, first⟩))
      · intro named line member
        obtain ⟨document, present, inside⟩ := List.mem_flatMap.mp member
        exact (each document present line inside).mpr (named document present)

theorem lines_of_hostile_scope :
    let text := "[\"KubeFedConfig\",\"\",[\"tame\"],[\"Clus\\r\\nter\"]]"
    let report := ofFile (fun _ => .ok text.toUTF8) {} "federation.json"
    (∀ name ∈ FeatureRegistry.default.names, Unbroken name) ∧
      Unbroken (FilePath.display "federation.json") ∧ report.error = none ∧
      report.documents.map DocumentReport.name = ["tame"] ∧
      ∀ line ∈ report.lines, Unbroken line := by
  intro text report
  have registered : ∀ name ∈ FeatureRegistry.default.names, Unbroken name := by decide +kernel
  have oneLine : Unbroken (FilePath.display "federation.json") := by decide +kernel
  have loaded : report.error = none := by decide +kernel
  have names : report.documents.map DocumentReport.name = ["tame"] := by decide +kernel
  have named : ∀ document ∈ report.documents, Unbroken document.name := by
    intro document member
    have name := List.mem_map_of_mem (f := DocumentReport.name) member
    rw [names] at name
    rw [List.mem_singleton.mp name]
    decide
  have breaks := lines_break_at_names (fun _ => .ok text.toUTF8) {} "federation.json" registered
    oneLine loaded
  exact ⟨registered, oneLine, loaded, names, breaks.2.2.mpr named⟩

/-- The name of a document is shown as it is, next to the same text as a bad value. -/
theorem name_breaks_its_line :
    let text := "\x7b\"kind\":\"FederatedTypeConfig\"," ++
      "\"metadata\":\x7b\"name\":\"first\\nsecond\"\x7d\x7d"
    let report := ofFile (fun _ => .ok text.toUTF8) {} "evil.json"
    let line := "evil.json[0] FederatedTypeConfig/first\nsecond: name: Invalid value: " ++
      "\"first\\nsecond\": name must be 'TARGET_PLURAL_NAME(.TARGET_GROUP_NAME)'"
    Unbroken (FilePath.display "evil.json") ∧ report.error = none ∧ report.lines = [line] ∧
      ¬ ∀ line ∈ report.lines, Unbroken line := by
  intro text report line
  have lines : report.lines = [line] := by decide +kernel
  refine ⟨by decide +kernel, by decide +kernel, lines, ?_⟩
  rw [lines]
  decide +kernel

end FileReport

end FederationConfig
