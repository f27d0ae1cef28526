import FederationConfig.Proofs.Manifest.Stream
import FederationConfig.Proofs.Report.Verdict

namespace FederationConfig

theorem Loading.manifests_of_stream {files : FileSystem} {path : FilePath} {text : String}
    (yaml : ManifestFormat.ofPath path = .yaml) (decodes : Decodes files path text) :
    manifests files path =
      (Manifest.ofDocuments ManifestFormat.yaml.skips (Yaml.documents text)).mapError
        (.noManifest .yaml text) := by
  rw [manifests_of_decodes decodes, yaml]
  rfl

theorem Loading.decodes_toUTF8 {path : FilePath} {text : String} (fits : Fits path)
    (inside : text.toUTF8.size ≤ greatestFileSize) :
    Decodes (fun _ => .ok text.toUTF8) path text :=
  ⟨text.toUTF8, ⟨fits, rfl⟩, inside, dif_pos text.isValidUTF8⟩

namespace FileReport

variable {files : FileSystem} {policy : Policy} {path : FilePath}

theorem exists_manifests_of_loaded (loaded : (ofFile files policy path).error = none) :
    ∃ found, Loading.manifests files path = .ok found := by
  cases outcome : Loading.manifests files path with
  | error error =>
      rw [ofFile_of_error outcome] at loaded
      cases loaded
  | ok found => exact ⟨found, rfl⟩

/-- A stream gives the manifests of all of its documents with content, in their order, or else the
error of the first one that cannot be decoded. A report on a file with the stream shows a document
for each manifest, or else the error alone. -/
theorem stream_all_or_none (documents : Documents) :
    let outcome := Manifest.ofDocuments ManifestFormat.yaml.skips documents
    ((∃ found, outcome = .ok found) ↔
      ∀ document ∈ documents, isPresent document →
        ∃ manifest, Manifest.ofDocument document = .ok manifest) ∧
    (∀ found, outcome = .ok found ↔
      List.Forall₂ (fun document manifest => Manifest.ofDocument document = .ok manifest)
        documents.present found) ∧
    (∀ fault, outcome = .error fault ↔
      ∃ front document back, documents = front ++ document :: back ∧
        (∀ earlier ∈ front, isPresent earlier →
          ∃ manifest, Manifest.ofDocument earlier = .ok manifest) ∧
        isPresent document ∧ Manifest.ofDocument document = .error fault) ∧
    ∀ text, Yaml.documents text = documents →
      Manifest.readAll .yaml text = outcome ∧
      ∀ (files : FileSystem) (policy : Policy) (path : FilePath),
        ManifestFormat.ofPath path = .yaml → Loading.Decodes files path text →
        let report := ofFile files policy path
        (∀ found, outcome = .ok found →
          report.error = none ∧
          report.documents = found.mapIdx (DocumentReport.ofManifest policy) ∧
          report.documents.length = documents.present.length) ∧
        ∀ fault, outcome = .error fault →
          ∃ error, Loading.manifests files path = .error error ∧ error.stage = .parse ∧
            error = .noManifest .yaml text fault ∧
            report.error = some error.message ∧ report.documents = [] := by
  intro outcome
  refine ⟨Manifest.exists_ofDocuments_yaml documents, fun found => Manifest.ofDocuments_yaml_eq_ok,
    fun fault => Manifest.ofDocuments_yaml_eq_error, ?_⟩
  rintro text rfl
  refine ⟨rfl, fun files policy path yaml decodes => ?_⟩
  have loading := Loading.manifests_of_stream yaml decodes
  constructor
  · intro found read
    have loaded := loading.trans (mapError_eq_ok.mpr read)
    have lengths := (Manifest.ofDocuments_yaml_eq_ok.mp read).length_eq
    rw [ofFile_of_ok loaded]
    exact ⟨rfl, rfl, List.length_mapIdx.trans lengths.symm⟩
  · intro fault read
    have failed := loading.trans (mapError_eq_error.mpr ⟨fault, read, rfl⟩)
    rw [ofFile_of_error failed]
    exact ⟨_, failed, rfl, rfl, rfl, rfl⟩

theorem stream_with_late_failure :
    let sound := "[KubeFedConfig]\n---\n---\n[KubeFedConfig]\n"
    let broken := "[KubeFedConfig]\n---\n---\nlate\n"
    let report := fun text : String => ofFile (fun _ => .ok text.toUTF8) {} "late.yaml"
    (report sound).error = none ∧ (report sound).documents.length = 2 ∧
      (report broken).error.isSome ∧ (report broken).documents = [] := by
  intro sound broken report
  have yaml : ManifestFormat.ofPath "late.yaml" = .yaml := by decide +kernel
  have fits : Loading.Fits "late.yaml" := ⟨by decide +kernel, by decide +kernel⟩
  have ofSound := (stream_all_or_none (Yaml.documents sound)).2.2.2 sound rfl
  have ofBroken := (stream_all_or_none (Yaml.documents broken)).2.2.2 broken rfl
  have readable : (Manifest.readAll .yaml sound).toOption.isSome := by decide +kernel
  have unreadable : (Manifest.readAll .yaml broken).toOption.isNone := by decide +kernel
  have counted : (Documents.present (Yaml.documents sound)).length = 2 := by decide +kernel
  rw [ofSound.1] at readable
  rw [ofBroken.1] at unreadable
  cases readSound : Manifest.ofDocuments ManifestFormat.yaml.skips (Yaml.documents sound) with
  | error fault =>
      rw [readSound] at readable
      cases readable
  | ok found =>
      cases readBroken : Manifest.ofDocuments ManifestFormat.yaml.skips
        (Yaml.documents broken) with
      | ok found =>
          rw [readBroken] at unreadable
          cases unreadable
      | error fault =>
          have soundText :=
            Loading.decodes_toUTF8 fits (show sound.toUTF8.size ≤ _ by decide +kernel)
          have brokenText := Loading.decodes_toUTF8 fits
            (show broken.toUTF8.size ≤ _ by decide +kernel)
          obtain ⟨loaded, -, shown⟩ := (ofSound.2 _ {} _ yaml soundText).1 found readSound
          obtain ⟨error, -, -, -, failed, none⟩ :=
            (ofBroken.2 _ {} _ yaml brokenText).2 fault readBroken
          exact ⟨loaded, shown.trans counted, Option.isSome_of_eq_some failed, none⟩

/-- A document with content is the one of a report whose index counts the documents with content
in front of it. That is its position just if no document in front of it is empty. -/
theorem indexes_count_present {text : String} (yaml : ManifestFormat.ofPath path = .yaml)
    (decodes : Loading.Decodes files path text)
    (loaded : (ofFile files policy path).error = none) :
    let documents : Documents := Yaml.documents text
    let report := ofFile files policy path
    (∀ position document, documents[position]? = some document → isPresent document →
      ∃ manifest, Manifest.ofDocument document = .ok manifest ∧
        report.documents[documents.rank position]? =
          some (DocumentReport.ofManifest policy (documents.rank position) manifest)) ∧
    (∀ entry ∈ report.documents, ∃ position document, documents[position]? = some document ∧
      isPresent document ∧ entry.index = documents.rank position) ∧
    ∀ position, position ≤ documents.length → (documents.rank position = position ↔
      ∀ earlier ∈ documents.take position, isPresent earlier) := by
  intro documents report
  obtain ⟨found, outcome⟩ := exists_manifests_of_loaded loaded
  have read : Manifest.ofDocuments ManifestFormat.yaml.skips documents = .ok found := by
    rw [Loading.manifests_of_stream yaml decodes] at outcome
    exact mapError_eq_ok.mp outcome
  have shown : report.documents = found.mapIdx (DocumentReport.ofManifest policy) :=
    congrArg FileReport.documents (ofFile_of_ok outcome)
  rw [shown]
  refine ⟨?_, ?_, fun position inside => Documents.rank_eq_self_iff inside⟩
  · intro position document there present
    obtain ⟨manifest, decoded⟩ := (Manifest.exists_ofDocuments_yaml documents).mp ⟨found, read⟩
      document (List.mem_of_getElem? there) present
    have entry := (Manifest.getElem?_of_ofDocuments_yaml read (documents.rank position)
      manifest).mpr ⟨position, document, there, decoded, rfl⟩
    refine ⟨manifest, decoded, ?_⟩
    rw [List.getElem?_mapIdx, entry]
    rfl
  · intro entry member
    obtain ⟨index, inside, rfl⟩ := List.mem_mapIdx.mp member
    obtain ⟨position, document, there, decoded, rank⟩ :=
      (Manifest.getElem?_of_ofDocuments_yaml read index found[index]).mp
        (List.getElem?_eq_getElem inside)
    exact ⟨position, document, there, Manifest.isPresent_of_ofDocument decoded, rank.symm⟩

theorem index_behind_empty_document :
    let text := "[KubeFedConfig]\n---\n---\n[KubeFedConfig]\n"
    let documents : Documents := Yaml.documents text
    let report := ofFile (fun _ => .ok text.toUTF8) {} "late.yaml"
    report.error = none ∧
      ∃ document manifest, documents[2]? = some document ∧
        Manifest.ofDocument document = .ok manifest ∧
        report.documents[1]? = some (DocumentReport.ofManifest {} 1 manifest) := by
  intro text documents report
  have yaml : ManifestFormat.ofPath "late.yaml" = .yaml := by decide +kernel
  have fits : Loading.Fits "late.yaml" := ⟨by decide +kernel, by decide +kernel⟩
  have decodes := Loading.decodes_toUTF8 fits (show text.toUTF8.size ≤ _ by decide +kernel)
  have loaded : report.error = none := by decide +kernel
  have flags : documents.map isPresent = [true, false, true] := by decide +kernel
  have rank : documents.rank 2 = 1 := by decide +kernel
  have third := congrArg (·[2]?) flags
  rw [List.getElem?_map] at third
  obtain ⟨document, there, present⟩ := Option.map_eq_some_iff.mp third
  obtain ⟨manifest, decoded, entry⟩ :=
    (indexes_count_present yaml decodes loaded).1 2 document there present
  rw [rank] at entry
  exact ⟨loaded, document, manifest, there, decoded, entry⟩

/-- The index of the only document with content, which is the second one of its file. -/
theorem index_is_no_position :
    let text := "---\n---\nkind: KubeFedConfig\n"
    let documents : Documents := Yaml.documents text
    let report := ofFile (fun _ => .ok text.toUTF8) {} "late.yaml"
    ManifestFormat.ofPath "late.yaml" = .yaml ∧ report.error = none ∧
      documents.map isPresent = [false, true] ∧
      report.documents.map DocumentReport.index = [0] ∧
      ¬ ∀ entry ∈ report.documents, ∃ document manifest,
        documents[entry.index]? = some document ∧ Manifest.ofDocument document = .ok manifest ∧
          entry = DocumentReport.ofManifest {} entry.index manifest := by
  intro text documents report
  have flags : documents.map isPresent = [false, true] := by decide +kernel
  have indexes : report.documents.map DocumentReport.index = [0] := by decide +kernel
  refine ⟨by decide +kernel, by decide +kernel, flags, indexes, ?_⟩
  intro located
  obtain ⟨entry, member, first⟩ := List.mem_map.mp (indexes ▸ List.mem_singleton_self 0)
  obtain ⟨document, manifest, there, decoded, -⟩ := located entry member
  rw [first] at there
  have empty := congrArg (·[0]?) flags
  rw [List.getElem?_map, there] at empty
  cases (Option.some_inj.mp empty).symm.trans (Manifest.isPresent_of_ofDocument decoded)

end FileReport

end FederationConfig
