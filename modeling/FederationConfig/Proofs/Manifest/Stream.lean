import FederationConfig.Manifest.Reading
import FederationConfig.Proofs.Outcome

/-!
The documents of a stream. Empty ones are passed over. The others are decoded all or none: either
each gives its manifest, in the order of the stream, or the first one that gives none stands for
the stream.
-/

namespace FederationConfig

/-- Whether a document has content. One that is malformed counts as having some. -/
def isPresent (document : Option Tree) : Bool := !document.any Tree.isNull

namespace Documents

def present (documents : Documents) : Documents := documents.filter isPresent

/-- How many documents with content stand in front of a position. -/
def rank (documents : Documents) (position : Nat) : Nat :=
  (documents.take position).countP isPresent

theorem rank_zero (documents : Documents) : documents.rank 0 = 0 := rfl

theorem rank_cons_of_present {first : Option Tree} (content : isPresent first)
    (rest : Documents) (position : Nat) :
    rank (first :: rest) (position + 1) = rest.rank position + 1 :=
  List.countP_cons_of_pos content

theorem rank_cons_of_empty {first : Option Tree} (empty : ¬ isPresent first)
    (rest : Documents) (position : Nat) :
    rank (first :: rest) (position + 1) = rest.rank position :=
  List.countP_cons_of_neg empty

theorem rank_eq_self_iff {documents : Documents} {position : Nat}
    (inside : position ≤ documents.length) :
    documents.rank position = position ↔
      ∀ earlier ∈ documents.take position, isPresent earlier := by
  have length := List.length_take_of_le inside
  rw [← List.countP_eq_length, length, rank]

theorem getElem?_present {documents : Documents} {index : Nat} {document : Option Tree} :
    documents.present[index]? = some document ↔
      ∃ position, documents[position]? = some document ∧ isPresent document ∧
        documents.rank position = index := by
  induction documents generalizing index with
  | nil => simp [present]
  | cons first rest ih =>
      rw [present] at ih ⊢
      constructor
      · intro found
        by_cases content : isPresent first
        · rw [List.filter_cons_of_pos content] at found
          cases index with
          | zero =>
              cases found
              exact ⟨0, rfl, content, rank_zero _⟩
          | succ index =>
              obtain ⟨position, there, present, rank⟩ := ih.mp found
              exact ⟨position + 1, there, present,
                (rank_cons_of_present content rest position).trans (congrArg (· + 1) rank)⟩
        · rw [List.filter_cons_of_neg content] at found
          obtain ⟨position, there, present, rank⟩ := ih.mp found
          exact ⟨position + 1, there, present,
            (rank_cons_of_empty content rest position).trans rank⟩
      · rintro ⟨position, there, present, rfl⟩
        cases position with
        | zero =>
            cases there
            rw [List.filter_cons_of_pos present, rank_zero]
            rfl
        | succ position =>
            have later := ih.mpr ⟨position, there, present, rfl⟩
            by_cases content : isPresent first
            · rw [List.filter_cons_of_pos content, rank_cons_of_present content]
              exact later
            · rw [List.filter_cons_of_neg content, rank_cons_of_empty content]
              exact later

end Documents

namespace Manifest

theorem isPresent_of_ofDocument {document : Option Tree} {manifest : Manifest}
    (decoded : ofDocument document = .ok manifest) : isPresent document := by
  cases document with
  | none => rfl
  | some tree =>
      cases tree with
      | null => cases decoded
      | tagged tag value => cases decoded
      | _ => rfl

theorem ofDocuments_yaml (documents : Documents) :
    ofDocuments ManifestFormat.yaml.skips documents = documents.present.mapM ofDocument := by
  have same : ManifestFormat.yaml.skips = Tree.isNull := rfl
  rw [ofDocuments, same]
  rfl

theorem exists_ofDocuments_yaml (documents : Documents) :
    (∃ found, ofDocuments ManifestFormat.yaml.skips documents = .ok found) ↔
      ∀ document ∈ documents, isPresent document →
        ∃ manifest, ofDocument document = .ok manifest := by
  rw [ofDocuments_yaml, exists_mapM_eq_ok]
  simp only [Documents.present, List.mem_filter, and_imp]

theorem ofDocuments_yaml_eq_ok {documents : Documents} {found : List Manifest} :
    ofDocuments ManifestFormat.yaml.skips documents = .ok found ↔
      List.Forall₂ (fun document manifest => ofDocument document = .ok manifest)
        documents.present found := by
  rw [ofDocuments_yaml, mapM_eq_ok]

theorem ofDocuments_yaml_eq_error {documents : Documents} {fault : ManifestFault} :
    ofDocuments ManifestFormat.yaml.skips documents = .error fault ↔
      ∃ front document back, documents = front ++ document :: back ∧
        (∀ earlier ∈ front, isPresent earlier → ∃ manifest, ofDocument earlier = .ok manifest) ∧
        isPresent document ∧ ofDocument document = .error fault := by
  rw [ofDocuments_yaml, mapM_eq_error]
  constructor
  · rintro ⟨passed, document, rest, parts, decoded, failed⟩
    obtain ⟨front, back, rfl, passed_eq, rest_eq⟩ := List.filter_eq_append_iff.mp parts
    obtain ⟨skipped, after, rfl, empty, content, _⟩ := List.filter_eq_cons_iff.mp rest_eq
    refine ⟨front ++ skipped, document, after, by simp, ?_, content, failed⟩
    intro earlier member present
    rcases List.mem_append.mp member with early | late
    · exact decoded earlier (passed_eq ▸ List.mem_filter.mpr ⟨early, present⟩)
    · exact absurd present (empty earlier late)
  · rintro ⟨front, document, back, rfl, decoded, content, failed⟩
    refine ⟨front.filter isPresent, document, back.filter isPresent, ?_, ?_, failed⟩
    · rw [Documents.present, List.filter_append, List.filter_cons_of_pos content]
    · intro earlier member
      obtain ⟨early, present⟩ := List.mem_filter.mp member
      exact decoded earlier early present

theorem getElem?_of_ofDocuments_yaml {documents : Documents} {found : List Manifest}
    (read : ofDocuments ManifestFormat.yaml.skips documents = .ok found) (index : Nat)
    (manifest : Manifest) :
    found[index]? = some manifest ↔
      ∃ position document, documents[position]? = some document ∧
        ofDocument document = .ok manifest ∧ documents.rank position = index := by
  rw [ofDocuments_yaml] at read
  rw [getElem?_of_mapM read]
  constructor
  · rintro ⟨document, there, decoded⟩
    obtain ⟨position, inside, _, rank⟩ := Documents.getElem?_present.mp there
    exact ⟨position, document, inside, decoded, rank⟩
  · rintro ⟨position, document, inside, decoded, rank⟩
    have content := isPresent_of_ofDocument decoded
    exact ⟨document, Documents.getElem?_present.mpr ⟨position, inside, content, rank⟩, decoded⟩

end Manifest

end FederationConfig
