import FederationConfig.Tree.Basic

/-!
Tables as they are put together. A table may be given once by a header; dotted keys and the
headers of inner tables make tables on the way, and these may not be mixed.
-/

namespace FederationConfig.Toml

/-- What made a table: a header of its own, the header of an inner table, or a dotted key. -/
inductive Origin where
  | header
  | innerHeader
  | dottedKey
  deriving DecidableEq, Repr

/-- A value of a table. Elements of an array of tables are kept in reverse. -/
inductive Node where
  | value (tree : Tree)
  | table (origin : Origin) (entries : List (String × Node))
  | tables (elements : List (List (String × Node)))

abbrev Entries := List (String × Node)

/-- Changes the value of a key, if the change is allowed for what the key has so far. -/
def Entries.alter (name : String) (change : Option Node → Option Node) (entries : Entries) :
    Option Entries :=
  match entries with
  | [] => (change none).map fun node => [(name, node)]
  | (key, node) :: rest =>
    if key = name then (change (some node)).map fun node => (key, node) :: rest
    else (Entries.alter name change rest).map fun rest => (key, node) :: rest

/-- Puts a value at the end of a dotted key. Tables on the way are made by dotted keys; only the
last may be no other. -/
def assign (value : Tree) : Bool → List String → Entries → Option Entries
  | _, [], _ => none
  | mayEnd, [name], entries =>
    if mayEnd then
      entries.alter name fun
        | none => some (.value value)
        | some _ => none
    else none
  | _, name :: rest, entries =>
    entries.alter name fun
      | none => (assign value true rest []).map (.table .dottedKey)
      | some (.table .header _) => none
      | some (.table origin inner) =>
        (assign value (origin = .dottedKey) rest inner).map (.table origin)
      | some (.tables (last :: earlier)) =>
        (assign value false rest last).map fun last => .tables (last :: earlier)
      | some _ => none

def alterAt (change : Option Node → Option Node) : List String → Entries → Option Entries
  | [], _ => none
  | [name], entries => entries.alter name change
  | name :: rest, entries =>
    entries.alter name fun
      | none => (alterAt change rest []).map (.table .innerHeader)
      | some (.table origin inner) => (alterAt change rest inner).map (.table origin)
      | some (.tables (last :: earlier)) =>
        (alterAt change rest last).map fun last => .tables (last :: earlier)
      | some _ => none

def assignAll (entries : Entries) (assignments : List (List String × Tree)) : Option Entries :=
  assignments.foldlM (fun entries (path, value) => assign value true path entries) entries

inductive Header where
  | table (path : List String)
  | element (path : List String)
  deriving Repr

structure Section where
  header : Header
  assignments : List (List String × Tree)

def openTable (assignments : List (List String × Tree)) : Option Node → Option Node
  | none => (assignAll [] assignments).map (.table .header)
  | some (.table .innerHeader inner) => (assignAll inner assignments).map (.table .header)
  | some _ => none

def openElement (assignments : List (List String × Tree)) : Option Node → Option Node
  | none => (assignAll [] assignments).map fun element => .tables [element]
  | some (.tables elements) =>
    (assignAll [] assignments).map fun element => .tables (element :: elements)
  | some _ => none

def Section.addTo (entries : Entries) (part : Section) : Option Entries :=
  match part.header with
  | .table path => alterAt (openTable part.assignments) path entries
  | .element path => alterAt (openElement part.assignments) path entries

def sortedMap (entries : List (String × Tree)) : Tree :=
  .map ((entries.mergeSort fun a b => !(b.1 < a.1)).map fun (key, tree) => (.text key, tree))

mutual

def Node.toTree : Node → Tree
  | .value tree => tree
  | .table _ entries => sortedMap (entryTrees entries)
  | .tables elements => .list (elementTrees elements).reverse

def entryTrees : List (String × Node) → List (String × Tree)
  | [] => []
  | (key, node) :: rest => (key, node.toTree) :: entryTrees rest

def elementTrees : List (List (String × Node)) → List Tree
  | [] => []
  | entries :: rest => sortedMap (entryTrees entries) :: elementTrees rest

end

end FederationConfig.Toml
