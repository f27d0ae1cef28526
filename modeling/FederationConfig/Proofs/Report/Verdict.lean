import FederationConfig.Proofs.Loading.Stages
import FederationConfig.Report

namespace FederationConfig.FileReport

variable {files : FileSystem} {policy : Policy} {path : FilePath}

theorem ofFile_of_error {error : LoadError} (failed : Loading.manifests files path = .error error) :
    ofFile files policy path = ⟨path.display, some error.message, []⟩ := by
  rw [ofFile, failed]

theorem ofFile_of_ok {found : List Manifest} (loaded : Loading.manifests files path = .ok found) :
    ofFile files policy path = ofManifests policy path.display found := by
  rw [ofFile, loaded]

theorem error_eq_none_or_documents_eq_nil (files : FileSystem) (policy : Policy)
    (path : FilePath) :
    (ofFile files policy path).error = none ∨ (ofFile files policy path).documents = [] := by
  cases outcome : Loading.manifests files path with
  | error error =>
      rw [ofFile_of_error outcome]
      exact .inr rfl
  | ok found =>
      rw [ofFile_of_ok outcome]
      exact .inl rfl

theorem isValid_ofManifests (policy : Policy) (file : String) (found : List Manifest) :
    (ofManifests policy file found).isValid ↔
      ∀ manifest ∈ found, manifest.violations policy = [] := by
  simp only [isValid, ofManifests, Option.isNone_none, Bool.true_and, List.all_eq_true,
    DocumentReport.isValid, List.isEmpty_iff]
  constructor
  · intro valid manifest member
    obtain ⟨position, inside, rfl⟩ := List.getElem_of_mem member
    exact valid _ (List.mem_mapIdx.mpr ⟨position, inside, rfl⟩)
  · intro sound report member
    obtain ⟨position, inside, rfl⟩ := List.mem_mapIdx.mp member
    exact sound _ (List.getElem_mem inside)

theorem isValid_ofFile (files : FileSystem) (policy : Policy) (path : FilePath) :
    (ofFile files policy path).isValid ↔
      ∃ found, Loading.manifests files path = .ok found ∧
        ∀ manifest ∈ found, manifest.violations policy = [] := by
  cases outcome : Loading.manifests files path with
  | error error =>
      rw [ofFile_of_error outcome]
      simp [isValid]
  | ok found =>
      rw [ofFile_of_ok outcome, isValid_ofManifests]
      simp

theorem documents_ofManifests_eq_singleton (policy : Policy) (file : String)
    (found : List Manifest) (document : DocumentReport) :
    (ofManifests policy file found).documents = [document] ↔
      ∃ manifest, found = [manifest] ∧ DocumentReport.ofManifest policy 0 manifest = document := by
  constructor
  · intro single
    have length := congrArg List.length single
    rw [ofManifests, List.length_mapIdx, List.length_singleton] at length
    obtain ⟨manifest, rfl⟩ := List.length_eq_one_iff.mp length
    exact ⟨manifest, rfl, List.singleton_inj.mp single⟩
  · rintro ⟨manifest, rfl, rfl⟩
    rfl

end FederationConfig.FileReport
