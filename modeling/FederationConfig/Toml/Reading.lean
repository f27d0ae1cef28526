import FederationConfig.Text.Basic
import FederationConfig.Toml.Scalar
import FederationConfig.Toml.Table

namespace FederationConfig.Toml

def isBlank (c : Char) : Bool := c == ' ' || c == '\t'

def skipBlanks (cs : List Char) : List Char := cs.dropWhile isBlank

def isBareChar (c : Char) : Bool := c.isAlphanum || c == '_' || c == '-'

def readSimpleKey? : List Char → Option (String × List Char)
  | '"' :: rest => Quotation.read? ⟨true, false⟩ rest
  | '\'' :: rest => Quotation.read? ⟨false, false⟩ rest
  | cs =>
    let bare := cs.takeWhile isBareChar
    if bare = [] then none else some (String.ofList bare, cs.dropWhile isBareChar)

def readKey? : Nat → List String → List Char → Option (List String × List Char)
  | 0, _, _ => none
  | fuel + 1, acc, cs =>
    match readSimpleKey? (skipBlanks cs) with
    | none => none
    | some (name, rest) => match skipBlanks rest with
      | '.' :: rest => readKey? fuel (name :: acc) rest
      | rest => some ((name :: acc).reverse, rest)

def dropReturn (line : List Char) : List Char :=
  if line.getLast? = some '\r' then line.dropLast else line

def skipComment? : List Char → Option (List Char)
  | '#' :: rest =>
    let comment := rest.takeWhile Text.isInLine
    let after := rest.dropWhile Text.isInLine
    if (if after.isEmpty then comment else dropReturn comment).all isTextChar then some after
    else none
  | cs => some cs

def endLine? (cs : List Char) : Option (List Char) :=
  match skipComment? (skipBlanks cs) with
  | some [] => some []
  | some ('\n' :: rest) => some rest
  | some ('\r' :: '\n' :: rest) => some rest
  | _ => none

def skipLines? : Nat → List Char → Option (List Char)
  | 0, _ => none
  | fuel + 1, cs =>
    match skipComment? (skipBlanks cs) with
    | none => none
    | some ('\n' :: rest) => skipLines? fuel rest
    | some ('\r' :: '\n' :: rest) => skipLines? fuel rest
    | some rest => some rest

def greatestDepth : Nat := 80

mutual

/-- A value in front of a text; `depth` counts the containers that may still be opened. -/
def readValue? (depth : Nat) : Nat → List Char → Option (Tree × List Char)
  | 0, _ => none
  | fuel + 1, cs => match cs with
    | '"' :: rest => (readString? true rest).map fun (value, rest) => (.text value, rest)
    | '\'' :: rest => (readString? false rest).map fun (value, rest) => (.text value, rest)
    | '[' :: rest => if depth = 0 then none else readItems? (depth - 1) fuel [] rest
    | '\x7b' :: rest => if depth = 0 then none else readInline? (depth - 1) fuel [] rest
    | _ => readScalar? cs

def readItems? (depth : Nat) : Nat → List Tree → List Char → Option (Tree × List Char)
  | 0, _, _ => none
  | fuel + 1, acc, cs =>
    match skipLines? (fuel + 1) cs with
    | none => none
    | some (']' :: rest) => some (.list acc.reverse, rest)
    | some cs => match readValue? depth fuel cs with
      | none => none
      | some (item, rest) => match skipLines? (fuel + 1) rest with
        | some (',' :: rest) => readItems? depth fuel (item :: acc) rest
        | some (']' :: rest) => some (.list (item :: acc).reverse, rest)
        | _ => none

def readInline? (depth : Nat) : Nat → Entries → List Char → Option (Tree × List Char)
  | 0, _, _ => none
  | fuel + 1, acc, cs =>
    match skipLines? (fuel + 1) cs with
    | none => none
    | some ('\x7d' :: rest) => some ((Node.table .header acc).toTree, rest)
    | some cs => match readKey? (fuel + 1) [] cs with
      | some (path, '=' :: rest) => match readValue? depth fuel (skipBlanks rest) with
        | none => none
        | some (value, rest) => match assign value true path acc with
          | none => none
          | some acc => match skipLines? (fuel + 1) rest with
            | some (',' :: rest) => readInline? depth fuel acc rest
            | some ('\x7d' :: rest) => some ((Node.table .header acc).toTree, rest)
            | _ => none
      | _ => none

end

def readHeader? (fuel : Nat) : List Char → Option (Header × List Char)
  | '[' :: rest => match readKey? fuel [] rest with
    | some (path, ']' :: ']' :: rest) => some (.element path, rest)
    | _ => none
  | rest => match readKey? fuel [] rest with
    | some (path, ']' :: rest) => some (.table path, rest)
    | _ => none

def readAssignment? (fuel : Nat) (cs : List Char) : Option ((List String × Tree) × List Char) :=
  match readKey? fuel [] cs with
  | some (path, '=' :: rest) =>
    (readValue? greatestDepth fuel (skipBlanks rest)).map fun (value, rest) => ((path, value), rest)
  | _ => none

/-- The tables read so far, and the section that is open; in front of the first header there is
none. -/
structure Progress where
  entries : Entries
  header : Option Header
  assignments : List (List String × Tree)

def Progress.close? (progress : Progress) : Option Entries :=
  match progress.header with
  | none => assignAll progress.entries progress.assignments.reverse
  | some header => Section.addTo progress.entries ⟨header, progress.assignments.reverse⟩

def readLines? : Nat → Progress → List Char → Option Entries
  | 0, _, _ => none
  | fuel + 1, progress, cs =>
    match skipLines? (fuel + 1) cs with
    | none => none
    | some [] => progress.close?
    | some ('[' :: rest) => match progress.close?, readHeader? (fuel + 1) rest with
      | some entries, some (header, rest) => match endLine? rest with
        | some rest => readLines? fuel ⟨entries, some header, []⟩ rest
        | none => none
      | _, _ => none
    | some cs => match readAssignment? (fuel + 1) cs with
      | some (assignment, rest) => match endLine? rest with
        | some rest =>
          readLines? fuel { progress with assignments := assignment :: progress.assignments } rest
        | none => none
      | none => none

def dropByteOrderMark : List Char → List Char
  | '\ufeff' :: rest => rest
  | cs => cs

/-- The table that a text holds. Every step takes at least one character, so the length of the
text bounds the number of steps. -/
def read? (text : String) : Option Tree :=
  let cs := dropByteOrderMark text.toList
  (readLines? (2 * cs.length + 2) ⟨[], none, []⟩ cs).map fun entries =>
    (Node.table .header entries).toTree

end FederationConfig.Toml
