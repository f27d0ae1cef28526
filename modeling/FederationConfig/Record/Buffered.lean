import FederationConfig.Record.Fault

/-!
Trees that are held back until it is known what they are to be read as, and are read from there.
-/

namespace FederationConfig

/-- What is held of a tree. An integer is held by its sign, a negative one by its distance from
the greatest one that is. -/
inductive Buffered where
  | null
  | bool (value : Bool)
  | unsigned (value : Nat)
  | negative (distance : Nat)
  | float (value : Binary64)
  | text (value : String)
  | list (items : List Buffered)
  | map (entries : List (Buffered × Buffered))
  deriving Repr, Inhabited

namespace Buffered

mutual

/-- A tag cannot be held. -/
def ofTree : Tree → Except DecodeFault Buffered
  | .null => .ok .null
  | .bool value => .ok (.bool value)
  | .integer (.ofNat value) => .ok (.unsigned value)
  | .integer (.negSucc distance) => .ok (.negative distance)
  | .float value => .ok (.float value)
  | .text value => .ok (.text value)
  | .list items => (ofTrees items).map .list
  | .map entries => (ofEntries entries).map .map
  | .tagged .. => .error .unsupportedTag

def ofTrees : List Tree → Except DecodeFault (List Buffered)
  | [] => .ok []
  | item :: rest => do return (← ofTree item) :: (← ofTrees rest)

def ofEntries : List (Tree × Tree) → Except DecodeFault (List (Buffered × Buffered))
  | [] => .ok []
  | (key, value) :: rest => do
    let key ← ofTree key
    let value ← ofTree value
    return (key, value) :: (← ofEntries rest)

end

mutual

def toTree : Buffered → Tree
  | .null => .null
  | .bool value => .bool value
  | .unsigned value => .integer (.ofNat value)
  | .negative distance => .integer (.negSucc distance)
  | .float value => .float value
  | .text value => .text value
  | .list items => .list (toTrees items)
  | .map entries => .map (toEntries entries)

def toTrees : List Buffered → List Tree
  | [] => []
  | item :: rest => item.toTree :: toTrees rest

def toEntries : List (Buffered × Buffered) → List (Tree × Tree)
  | [] => []
  | (key, value) :: rest => (key.toTree, value.toTree) :: toEntries rest

end

end Buffered

end FederationConfig
