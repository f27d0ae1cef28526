import FederationConfig.Manifest.Decoding
import FederationConfig.Manifest.Format

/-!
The manifests of a text. They are read all or none: the first document that cannot be read or
decoded stands for the text.
-/

namespace FederationConfig

/-- A document may be no tree at all, name no kind, or have an object that does not suit its
kind. -/
inductive ManifestFault where
  | malformed
  | unidentified (fault : DecodeFault)
  | undecodable (fault : DecodeFault)
  deriving Repr

/-- A format has many texts for a document that is malformed; one stands for them all here. -/
def ManifestFault.message (wording : Wording) : ManifestFault → String
  | malformed => "malformed document"
  | unidentified fault => fault.message wording
  | undecodable fault => fault.message wording

namespace Manifest

def ofTree (tree : Tree) : Except ManifestFault Manifest := do
  let (kind, held) ← (identify tree).mapError .unidentified
  (replay kind held).mapError .undecodable

def ofDocument (document : Option Tree) : Except ManifestFault Manifest :=
  match document with
  | none => .error .malformed
  | some tree => ofTree tree

def ofDocuments (skips : Tree → Bool) (documents : Documents) :
    Except ManifestFault (List Manifest) :=
  (documents.filter fun document => !document.any skips).mapM ofDocument

def readAll (format : ManifestFormat) (text : String) : Except ManifestFault (List Manifest) :=
  ofDocuments format.skips (format.documents text)

end Manifest

end FederationConfig
