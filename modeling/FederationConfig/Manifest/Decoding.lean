import FederationConfig.Manifest.Basic

/-!
Manifests in trees. The kind is an entry of a map, wherever it stands, or the first item of a
list; what is left is held back until the kind is known, and is then read as the object.
-/

namespace FederationConfig

/-- A tag on the name of a kind does not matter. -/
def ManifestKind.ofTree (tree : Tree) : Except DecodeFault ManifestKind :=
  match tree.untagged with
  | .text name => match ofName? name with
    | some kind => .ok kind
    | none => .error (.unknownVariant name (all.map ManifestKind.name))
  | other => .error (.wrongType other "variant identifier")

namespace Manifest

def isKindKey : Tree → Bool
  | .text key => key = "kind"
  | _ => false

/-- Takes the kind out of a map, and holds back the other entries. -/
def takeKind (found : Option ManifestKind) (others : List (Buffered × Buffered)) :
    List (Tree × Tree) → Except DecodeFault (ManifestKind × List (Buffered × Buffered))
  | [] => match found with
    | none => .error (.missingField "kind")
    | some kind => .ok (kind, others.reverse)
  | (key, value) :: rest =>
    if isKindKey key then
      if found.isSome then .error (.duplicateField "kind")
      else match ManifestKind.ofTree value with
        | .error fault => .error fault
        | .ok kind => takeKind (some kind) others rest
    else do
      let key ← Buffered.ofTree key
      let value ← Buffered.ofTree value
      takeKind found ((key, value) :: others) rest

def identify : Tree → Except DecodeFault (ManifestKind × Buffered)
  | .map entries => (takeKind none [] entries).map fun (kind, others) => (kind, .map others)
  | .list [] => .error (.missingField "kind")
  | .list (first :: rest) => do
    let kind ← ManifestKind.ofTree first
    return (kind, .list (← Buffered.ofTrees rest))
  | tree => .error (.wrongType tree "internally tagged enum Manifest")

def replay (kind : ManifestKind) (held : Buffered) : Except DecodeFault Manifest :=
  match kind with
  | .typeConfig => (TypeConfig.record.replay held).map typeConfig
  | .operatorConfig => (OperatorConfig.record.replay held).map operatorConfig

/-- Reads an object that is known to be of a kind, without holding it back. -/
def ofObject (kind : ManifestKind) (object : Tree) : Except DecodeFault Manifest :=
  match kind with
  | .typeConfig => (TypeConfig.record.read object).map typeConfig
  | .operatorConfig => (OperatorConfig.record.read object).map operatorConfig

end Manifest

end FederationConfig
