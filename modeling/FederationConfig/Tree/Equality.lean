import FederationConfig.Tree.Basic

/-! When two trees are one key: the order of entries does not matter, the kind of number does. -/

namespace FederationConfig.Tree

mutual

def same : Tree → Tree → Bool
  | .null, .null => true
  | .bool a, .bool b => a == b
  | .integer a, .integer b => a == b
  | .float a, .float b => a.same b
  | .text a, .text b => a == b
  | .list a, .list b => sameItems a b
  | .map a, .map b => a.length == b.length && sameEntries a b
  | .tagged s a, .tagged t b => s == t && a.same b
  | _, _ => false

def sameItems : List Tree → List Tree → Bool
  | [], [] => true
  | a :: as, b :: bs => a.same b && sameItems as bs
  | _, _ => false

def sameEntries : List (Tree × Tree) → List (Tree × Tree) → Bool
  | [], _ => true
  | (key, value) :: rest, entries => sameEntry key value entries && sameEntries rest entries

def sameEntry (key value : Tree) : List (Tree × Tree) → Bool
  | [] => false
  | (otherKey, otherValue) :: rest =>
    (key.same otherKey && value.same otherValue) || sameEntry key value rest

end

def hasKey (key : Tree) (entries : List (Tree × Tree)) : Bool :=
  entries.any fun (other, _) => key.same other

end FederationConfig.Tree
