import FederationConfig.Json.Basic

/-!
Trees of data, whatever notation they are written in. Besides what JSON knows, keys may be any
tree, and a value may carry a tag of its own.
-/

namespace FederationConfig

inductive Tree where
  | null
  | bool (value : Bool)
  | integer (value : Int)
  | float (value : Binary64)
  | text (value : String)
  | list (items : List Tree)
  | map (entries : List (Tree × Tree))
  | tagged (tag : String) (value : Tree)
  deriving Repr, Inhabited

mutual

def Json.toTree : Json → Tree
  | .null => .null
  | .bool value => .bool value
  | .integer value => .integer value
  | .float value => .float value
  | .text value => .text value
  | .list items => .list (Json.toTrees items)
  | .object entries => .map (Json.toEntries entries)

def Json.toTrees : List Json → List Tree
  | [] => []
  | item :: rest => item.toTree :: Json.toTrees rest

def Json.toEntries : List (String × Json) → List (Tree × Tree)
  | [] => []
  | (key, value) :: rest => (.text key, value.toTree) :: Json.toEntries rest

end

namespace Tree

def untagged : Tree → Tree
  | .tagged _ value => value.untagged
  | tree => tree

def isNull (tree : Tree) : Bool :=
  match tree.untagged with
  | .null => true
  | _ => false

end Tree

end FederationConfig
