import FederationConfig.Number.Binary64

namespace FederationConfig

inductive Json where
  | null
  | bool (value : Bool)
  | integer (value : Int)
  | float (value : Binary64)
  | text (value : String)
  | list (items : List Json)
  | object (entries : List (String × Json))
  deriving Repr, Inhabited

namespace Json

inductive Step where
  | key (name : String)
  | item (position : Nat)
  deriving DecidableEq, Repr

def lookup (name : String) : List (String × Json) → Option Json
  | [] => none
  | (key, value) :: rest => if key = name then some value else lookup name rest

def child? : Json → Step → Option Json
  | .object entries, .key name => lookup name entries
  | .list items, .item position => items[position]?
  | _, _ => none

def at? (json : Json) (path : List Step) : Option Json := path.foldlM child? json

def putEntry (name : String) (value : Json) : List (String × Json) → List (String × Json)
  | [] => [(name, value)]
  | (key, old) :: rest =>
    if key = name then (name, value) :: rest else (key, old) :: putEntry name value rest

def putItem (position : Nat) (value : Json) (items : List Json) : List Json :=
  if position < items.length then items.set position value else items ++ [value]

def putChild (json : Json) (step : Step) (value : Json) : Json :=
  match json, step with
  | .object entries, .key name => .object (putEntry name value entries)
  | .list items, .item position => .list (putItem position value items)
  | _, .key name => .object [(name, value)]
  | _, .item _ => .list [value]

/-- Replaces or inserts a part; containers on the way to it are made where they are missing. -/
def put (json : Json) : List Step → Json → Json
  | [], value => value
  | step :: rest, value =>
    json.putChild step (put ((json.child? step).getD .null) rest value)

def eraseChild : Json → Step → Json
  | .object entries, .key name => .object (entries.filter fun (key, _) => key ≠ name)
  | .list items, .item position => .list (items.eraseIdx position)
  | json, _ => json

def erase (json : Json) : List Step → Json
  | [] => json
  | [step] => json.eraseChild step
  | step :: rest => match json.child? step with
    | none => json
    | some inner => json.putChild step (inner.erase rest)

end Json

end FederationConfig
