import FederationConfig.Json.Token
import FederationConfig.Text.Basic

/-! Where a text in JSON holds its outermost entries. -/

namespace FederationConfig.Json

/-- The place of an entry: its colon, and the first token of its value. -/
structure EntryPlace where
  colon : PlacedToken
  value : PlacedToken
  deriving Repr

namespace PlacedToken

def isKey (key : String) (placed : PlacedToken) : Bool :=
  match placed.token with
  | .value (.text name) => name = key
  | _ => false

def isColon (placed : PlacedToken) : Bool :=
  match placed.token with
  | .colon => true
  | _ => false

def depthBehind (depth : Nat) (placed : PlacedToken) : Nat :=
  match placed.token with
  | .openList => depth + 1
  | .openObject => depth + 1
  | .closeList => depth - 1
  | .closeObject => depth - 1
  | _ => depth

/-- Where the reader of a value stops that may not be a container. -/
def scalarStop (placed : PlacedToken) : Nat :=
  match placed.token with
  | .openList => placed.start
  | .openObject => placed.start
  | _ => placed.stop

end PlacedToken

/-- The entries of the outermost object that have a given key, added in reverse to those found. -/
def entryPlaces (key : String) : Nat → List EntryPlace → List PlacedToken → List EntryPlace
  | _, found, [] => found.reverse
  | depth, found, token :: rest =>
    let depthBehind := token.depthBehind depth
    match rest with
    | colon :: value :: _ =>
      if depth = 1 ∧ token.isKey key ∧ colon.isColon then
        entryPlaces key depthBehind (⟨colon, value⟩ :: found) rest
      else entryPlaces key depthBehind found rest
    | _ => entryPlaces key depthBehind found rest

/-- Names a place by its line, and by the number of bytes in front of it on the line. -/
def placeText (text : List Char) (place : Nat) : String :=
  let front := text.take place
  " at line " ++ (Text.lineNumber front).repr ++
    " column " ++ (Text.byteCount (Text.lineFront front)).repr

end FederationConfig.Json
