import FederationConfig.Proofs.Field.Ending
import FederationConfig.Proofs.Report.Lines
import Mathlib.Algebra.BigOperators.Group.List.Basic
import Mathlib.Algebra.GroupWithZero.Nat

/-!
Verdicts in the lines of a report. Each document has a block of lines of its own, in the order of
the file, and the line that marks a valid document stands for nothing else.
-/

namespace FederationConfig

open Text (EndsUnlike)

theorem getElem?_flatten_block {α : Type} {blocks : List (List α)} {position offset : Nat}
    {block : List α} (there : blocks[position]? = some block) (inside : offset < block.length) :
    blocks.flatten[((blocks.take position).map List.length).sum + offset]? = block[offset]? := by
  obtain ⟨within, rfl⟩ := List.getElem?_eq_some_iff.mp there
  rw [← List.getElem?_drop, List.map_take, List.drop_sum_flatten,
    List.drop_eq_getElem_cons within, List.flatten_cons, List.getElem?_append_left inside]

namespace DocumentReport

variable {report : DocumentReport}

theorem lines_of_valid (file : String) (valid : report.violations = []) :
    report.lines file = [report.heading file ++ ": valid"] := by
  rw [lines, valid]

theorem getElem?_lines {file : String} {offset : Nat} {violation : Violation}
    (found : report.violations[offset]? = some violation) :
    (report.lines file)[offset]? = some (report.heading file ++ ": " ++ violation.render) := by
  rw [lines]
  split
  case h_1 valid =>
    rw [valid] at found
    cases found
  case h_2 => rw [List.getElem?_map, found, Option.map_some]

theorem endsWith_valid_iff (file : String)
    (unlike : ∀ violation ∈ report.violations, EndsUnlike 'd' violation.render) :
    ∀ line ∈ report.lines file, (line.endsWith ": valid" ↔ report.violations = []) := by
  intro line member
  have mark : Text.Ends 'd' ": valid" := .ofList rfl
  rw [lines] at member
  split at member
  case h_1 valid =>
    rw [List.mem_singleton.mp member]
    exact iff_of_true (Text.endsWith_append _ _) valid
  case h_2 broken =>
    obtain ⟨violation, found, rfl⟩ := List.mem_map.mp member
    exact iff_of_false (((unlike violation found).append _).not_endsWith mark) broken

theorem lines_pos (file : String) (report : DocumentReport) : 0 < (report.lines file).length := by
  rw [length_lines]
  omega

theorem forall_endsWith_valid_iff (file : String)
    (unlike : ∀ violation ∈ report.violations, EndsUnlike 'd' violation.render) :
    (∀ line ∈ report.lines file, line.endsWith ": valid") ↔ report.violations = [] := by
  have each := endsWith_valid_iff file unlike
  have first := List.getElem_mem (report.lines_pos file)
  exact ⟨fun all => (each _ first).mp (all _ first),
    fun valid line member => (each line member).mpr valid⟩

end DocumentReport

namespace Manifest

theorem endsUnlike_render (policy : Policy) (manifest : Manifest) :
    ∀ violation ∈ manifest.violations policy, EndsUnlike 'd' violation.render :=
  fun violation found => (manifest.isLegible_violations policy violation found).endsUnlike_render

def lineCount (policy : Policy) (manifest : Manifest) : Nat :=
  max 1 (manifest.violations policy).length

theorem lineCount_pos {policy : Policy} (manifest : Manifest) : 0 < manifest.lineCount policy :=
  Nat.lt_of_lt_of_le Nat.zero_lt_one (Nat.le_max_left _ _)

end Manifest

namespace FileReport

def blocks (policy : Policy) (file : String) (found : List Manifest) : List (List String) :=
  (ofManifests policy file found).documents.map (DocumentReport.lines file)

variable {policy : Policy} {file : String} {found : List Manifest}

theorem lines_ofManifests : (ofManifests policy file found).lines =
    (blocks policy file found).flatten :=
  List.flatMap_def

theorem getElem?_blocks {position : Nat} {manifest : Manifest}
    (there : found[position]? = some manifest) :
    (blocks policy file found)[position]? =
      some ((DocumentReport.ofManifest policy position manifest).lines file) := by
  rw [blocks, ofManifests, List.getElem?_map, List.getElem?_mapIdx, there, Option.map_some,
    Option.map_some]

theorem map_length_blocks (file : String) :
    (blocks policy file found).map List.length = found.map (Manifest.lineCount policy) := by
  refine List.ext_getElem? fun position => ?_
  rw [List.getElem?_map, List.getElem?_map]
  cases there : found[position]? with
  | none =>
      have outside : (blocks policy file found).length ≤ position := by
        rw [blocks, ofManifests, List.length_map, List.length_mapIdx]
        exact List.getElem?_eq_none_iff.mp there
      rw [List.getElem?_eq_none outside]
      rfl
  | some manifest =>
      rw [getElem?_blocks there, Option.map_some, Option.map_some, DocumentReport.length_lines]
      rfl

theorem length_lines_ofManifests : (ofManifests policy file found).lines.length =
    (found.map (Manifest.lineCount policy)).sum := by
  rw [lines_ofManifests, List.length_flatten, map_length_blocks]

theorem getElem?_lines_ofManifests {position offset : Nat} {manifest : Manifest}
    (there : found[position]? = some manifest) (inside : offset < manifest.lineCount policy) :
    (ofManifests policy file found).lines[
        ((found.take position).map (Manifest.lineCount policy)).sum + offset]? =
      ((DocumentReport.ofManifest policy position manifest).lines file)[offset]? := by
  rw [lines_ofManifests, List.map_take, ← map_length_blocks file, ← List.map_take]
  refine getElem?_flatten_block (getElem?_blocks there) ?_
  rwa [DocumentReport.length_lines]

theorem isValid_iff_endsWith_valid : (ofManifests policy file found).isValid ↔
    ∀ line ∈ (ofManifests policy file found).lines, line.endsWith ": valid" := by
  have marked : ∀ position (manifest : Manifest),
      (∀ line ∈ (DocumentReport.ofManifest policy position manifest).lines file,
        line.endsWith ": valid") ↔ manifest.violations policy = [] :=
    fun _ manifest => DocumentReport.forall_endsWith_valid_iff file
      (manifest.endsUnlike_render policy)
  rw [isValid_ofManifests, lines]
  simp only [ofManifests, List.mem_flatMap]
  constructor
  · rintro sound line ⟨document, member, inside⟩
    obtain ⟨position, within, rfl⟩ := List.mem_mapIdx.mp member
    exact (marked position _).mpr (sound _ (List.getElem_mem within)) line inside
  · intro all manifest member
    obtain ⟨position, within, rfl⟩ := List.getElem_of_mem member
    exact (marked position _).mp fun line inside =>
      all line ⟨_, List.mem_mapIdx.mpr ⟨position, within, rfl⟩, inside⟩

/-- The lines of a file that loads stand in blocks, one for each document: its violations in their
order, or a line that marks it as valid. No other line has this mark, so the file is valid exactly
if all lines have it. -/
theorem lines_show_verdicts {files : FileSystem} (policy : Policy) {path : FilePath}
    (loaded : Loading.manifests files path = .ok found) :
    let report := ofFile files policy path
    report.lines.length = (found.map (Manifest.lineCount policy)).sum ∧
      (∀ position manifest, found[position]? = some manifest →
        let start := ((found.take position).map (Manifest.lineCount policy)).sum
        let heading := (DocumentReport.ofManifest policy position manifest).heading path.display
        (manifest.violations policy = [] → report.lines[start]? = some (heading ++ ": valid")) ∧
          (∀ offset violation, (manifest.violations policy)[offset]? = some violation →
            report.lines[start + offset]? = some (heading ++ ": " ++ violation.render)) ∧
          ((∃ offset < manifest.lineCount policy, ∃ line,
              report.lines[start + offset]? = some line ∧ line.endsWith ": valid") ↔
            manifest.violations policy = [])) ∧
      (report.isValid ↔ ∀ line ∈ report.lines, line.endsWith ": valid") ∧
      ∀ manifest : Manifest, ∀ violation ∈ manifest.violations policy,
        ¬ violation.render.endsWith ": valid" := by
  intro report
  have same : report = ofManifests policy path.display found := ofFile_of_ok loaded
  rw [same]
  refine ⟨length_lines_ofManifests, ?_, isValid_iff_endsWith_valid, ?_⟩
  · intro position manifest there start heading
    have block : ∀ offset < manifest.lineCount policy,
        (ofManifests policy path.display found).lines[start + offset]? =
          ((DocumentReport.ofManifest policy position manifest).lines path.display)[offset]? :=
      fun _ inside => getElem?_lines_ofManifests there inside
    have first := block 0 manifest.lineCount_pos
    refine ⟨?_, ?_, ?_, ?_⟩
    · intro valid
      rwa [DocumentReport.lines_of_valid _ valid] at first
    · intro offset violation given
      have inside := (List.getElem?_eq_some_iff.mp given).1
      rw [block offset (Nat.lt_of_lt_of_le inside (Nat.le_max_right _ _))]
      exact DocumentReport.getElem?_lines given
    · rintro ⟨offset, inside, line, shown, mark⟩
      rw [block offset inside] at shown
      exact (DocumentReport.endsWith_valid_iff _ (manifest.endsUnlike_render policy) line
        (List.mem_of_getElem? shown)).mp mark
    · intro valid
      rw [DocumentReport.lines_of_valid _ valid] at first
      exact ⟨0, manifest.lineCount_pos, _, first, Text.endsWith_append _ _⟩
  · intro manifest violation member
    exact (manifest.endsUnlike_render policy violation member).not_endsWith (.ofList rfl)

theorem lines_of_misleading_name :
    let text := "[FederatedTypeConfig,'',[s],[['',v1,S,s,Cluster],[t.io,v1,F,f,Cluster],null," ++
      "Enabled]]\n---\n[FederatedTypeConfig,'',[': valid']]\n"
    let files : FileSystem := fun _ => .ok text.toUTF8
    let report := ofFile files {} "stream.yaml"
    let sound : TypeConfig := {
      metadata := { name := "s" }
      spec := {
        targetType := ⟨"", "v1", "S", "s", .known .cluster⟩
        federatedType := ⟨"t.io", "v1", "F", "f", .known .cluster⟩
        propagation := .known .enabled } }
    let misnamed : TypeConfig := { metadata := { name := ": valid" } }
    Loading.manifests files "stream.yaml" = .ok [.typeConfig sound, .typeConfig misnamed] ∧
      report.lines.length = 2 ∧
      report.lines[0]? = some "stream.yaml[0] FederatedTypeConfig/s: valid" ∧
      (∀ line, report.lines[1]? = some line → ¬ line.endsWith ": valid") ∧ ¬ report.isValid := by
  intro text files report sound misnamed
  have loaded : Loading.manifests files "stream.yaml" =
      .ok [.typeConfig sound, .typeConfig misnamed] :=
    eq_ok_of_toOption (by decide +kernel)
  have accepted : Manifest.violations {} (.typeConfig sound) = [] := by decide +kernel
  have rejected : (Manifest.violations {} (.typeConfig misnamed)).length = 1 := by decide +kernel
  have single : Manifest.lineCount {} (.typeConfig sound) = 1 := by
    rw [Manifest.lineCount, accepted]
    rfl
  have singleToo : Manifest.lineCount {} (.typeConfig misnamed) = 1 := by
    rw [Manifest.lineCount, rejected]
    rfl
  obtain ⟨length, blocks, verdict, -⟩ := lines_show_verdicts {} loaded
  have unmarked := (blocks 1 _ rfl).2.2.not.mpr (List.ne_nil_of_length_pos (rejected ▸ Nat.one_pos))
  simp only [List.take_succ_cons, List.take_zero, List.map_cons, List.map_nil, List.sum_cons,
    List.sum_nil, single, singleToo] at length unmarked
  have last : ∀ line, report.lines[1]? = some line → ¬ line.endsWith ": valid" :=
    fun line shown mark => unmarked ⟨0, Nat.one_pos, line, shown, mark⟩
  have first := (blocks 0 _ rfl).1 accepted
  have heading : (DocumentReport.ofManifest {} 0 (.typeConfig sound)).heading
      (FilePath.display "stream.yaml") ++ ": valid" =
      "stream.yaml[0] FederatedTypeConfig/s: valid" := by decide +kernel
  rw [heading] at first
  have inside : 1 < report.lines.length := length ▸ Nat.one_lt_two
  exact ⟨loaded, length, first, last, fun valid =>
    last _ (List.getElem?_eq_getElem inside) (verdict.mp valid _ (List.getElem_mem inside))⟩

end FileReport

end FederationConfig
