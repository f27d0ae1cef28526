import FederationConfig.Yaml.Source

namespace FederationConfig.Yaml

inductive Chomping where
  | clip
  | strip
  | keep
  deriving DecidableEq, Repr

/-- The indicators behind `|` or `>`; an indentation of zero is found out from the text. -/
structure BlockHeader where
  chomping : Chomping
  indentation : Nat
  deriving Repr

def chomping? (c : Char) : Option Chomping :=
  match c with
  | '+' => some .keep
  | '-' => some .strip
  | _ => none

def cutIndentation? (cursor : Cursor) : Option (Nat × Cursor) :=
  match cursor.rest with
  | c :: _ =>
    if c = '0' then none
    else if c.isDigit then some (c.toNat - '0'.toNat, cursor.skip 1)
    else some (0, cursor)
  | [] => some (0, cursor)

def cutChomping (cursor : Cursor) : Chomping × Cursor :=
  match cursor.rest.head?.bind chomping? with
  | some chomping => (chomping, cursor.skip 1)
  | none => (.clip, cursor)

def BlockHeader.read? (cursor : Cursor) : Option (BlockHeader × Cursor) :=
  let (chomping, behind) := cutChomping cursor
  match cutIndentation? behind with
  | none => none
  | some (indentation, rest) =>
    let (chomping, rest) := if chomping = .clip then cutChomping rest else (chomping, rest)
    rest.endLine?.map fun rest => (⟨chomping, indentation⟩, rest)

/-- What has been read of a block scalar, in reverse. The break behind the last line and the
empty lines after it are kept apart. -/
structure BlockText where
  indentation : Nat
  widest : Nat
  acc : List Char
  lastBreak : List Char
  emptyLines : List Char
  afterBlank : Bool
  deriving Repr

namespace BlockText

/-- The first line that is not empty settles an indentation that is not given. -/
def settle (text : BlockText) (column : Nat) (least : Int) : BlockText :=
  if text.indentation = 0 then
    { text with indentation := max (max text.widest column) (max 1 least.toNat) }
  else text

def startLine (folded : Bool) (text : BlockText) (c : Char) : BlockText :=
  let folds := folded && text.lastBreak == ['\n'] && !text.afterBlank && !isBlank c
  let joint :=
    if folds then (if text.emptyLines.isEmpty then [' '] else []) else text.lastBreak
  { text with
    acc := c :: (text.emptyLines ++ (joint ++ text.acc))
    lastBreak := []
    emptyLines := []
    afterBlank := isBlank c }

def read? (folded : Bool) (least : Int) (inLine : Bool) (text : BlockText) :
    Place → List Char → Option (BlockText × Cursor)
  | place, [] => some (text, ⟨place, []⟩)
  | place, c :: rest =>
    if inLine then
      if isBreak c then
        read? folded least false { text with lastBreak := [c] } (place.after c) rest
      else read? folded least true { text with acc := c :: text.acc } (place.after c) rest
    else
      let indenting := text.indentation = 0 ∨ place.column < text.indentation
      if indenting ∧ c = ' ' then read? folded least false text (place.after c) rest
      else if indenting ∧ c = '\t' then none
      else if isBreak c then
        read? folded least false
          { text with
            emptyLines := c :: text.emptyLines
            widest := max text.widest place.column }
          (place.after c) rest
      else
        let text := text.settle place.column least
        if place.column = text.indentation then
          read? folded least true (text.startLine folded c) (place.after c) rest
        else some (text, ⟨place, c :: rest⟩)

def finish (chomping : Chomping) (text : BlockText) : String :=
  String.ofList (match chomping with
    | .strip => text.acc
    | .clip => text.lastBreak ++ text.acc
    | .keep => text.emptyLines ++ (text.lastBreak ++ text.acc)).reverse

end BlockText

def blockScalar? (folded : Bool) (indent : Int) (cursor : Cursor) : Option (String × Cursor) :=
  match BlockHeader.read? cursor with
  | none => none
  | some (header, cursor) =>
    let indentation := if header.indentation = 0 then 0 else indent.toNat + header.indentation
    (BlockText.read? folded (indent + 1) false ⟨indentation, 0, [], [], [], false⟩
      cursor.place cursor.rest).map fun (text, cursor) => (text.finish header.chomping, cursor)

end FederationConfig.Yaml
