import FederationConfig.Text.Basic
import FederationConfig.Toml.Reading

namespace FederationConfig.Toml

/-- A text parted in three: what a message is about, what stands in front, and what comes behind. -/
structure Excerpt where
  front : List Char
  part : List Char
  behind : List Char
  deriving Repr

namespace Excerpt

def whole (text : List Char) : Excerpt := ⟨[], text, []⟩

def line (excerpt : Excerpt) : List Char :=
  Text.lineFront excerpt.front ++ (excerpt.part ++ excerpt.behind).takeWhile Text.isInLine

/-- A part without characters has one mark, and no mark stands behind the end of its line. -/
def markCount (excerpt : Excerpt) : Nat :=
  let column := (Text.lineFront excerpt.front).length
  max 1 (min (Text.byteCount excerpt.part) (Text.byteCount excerpt.line - column))

def blanks (count : Nat) : String := String.ofList (List.replicate count ' ')

def render (excerpt : Excerpt) : String :=
  let number := (Text.lineNumber excerpt.front).repr
  let column := (Text.lineFront excerpt.front).length + 1
  let margin := blanks (number.length + 1) ++ "|"
  "TOML parse error at line " ++ number ++ ", column " ++ column.repr ++ "\n" ++
    margin ++ "\n" ++
    number ++ " | " ++ String.ofList excerpt.line ++ "\n" ++
    margin ++ blanks column ++ String.ofList (List.replicate excerpt.markCount '^') ++ "\n"

end Excerpt

def valueOf? (key : String) : Nat → List Char → Option (List Char × List Char)
  | 0, _ => none
  | fuel + 1, cs =>
    match skipLines? (fuel + 1) cs with
    | none => none
    | some [] => none
    | some ('[' :: _) => none
    | some cs => match readKey? (fuel + 1) [] cs with
      | some (path, '=' :: rest) =>
        let value := skipBlanks rest
        match readValue? greatestDepth (fuel + 1) value with
        | none => none
        | some (_, rest) =>
          if path = [key] then some (value, rest)
          else (endLine? rest).bind fun rest => valueOf? key fuel rest
      | _ => none

def Excerpt.ofValue? (key : String) (text : List Char) : Option Excerpt :=
  (valueOf? key (2 * text.length + 2) text).map fun (value, behind) =>
    ⟨text.take (text.length - value.length), value.take (value.length - behind.length), behind⟩

end FederationConfig.Toml
