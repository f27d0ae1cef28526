namespace FederationConfig.Yaml

def isAllowed (c : Char) : Bool :=
  let n := c.toNat
  n == 0x09 || n == 0x0A || n == 0x0D || (0x20 ≤ n && n ≤ 0x7E) || n == 0x85 ||
    (0xA0 ≤ n && n ≤ 0xFFFD) || 0x10000 ≤ n

/-- Line breaks of all kinds become line feeds, but for the two separators of Unicode, which
stay in the text that they break. -/
def unifyBreaks (acc : List Char) : List Char → List Char
  | [] => acc.reverse
  | '\r' :: '\n' :: rest => unifyBreaks ('\n' :: acc) rest
  | c :: rest => unifyBreaks ((if c = '\r' ∨ c = '\u0085' then '\n' else c) :: acc) rest

def isBreak (c : Char) : Bool := c == '\n' || c == '\u2028' || c == '\u2029'

def isBlank (c : Char) : Bool := c == ' ' || c == '\t'

def isGap (c : Char) : Bool := isBlank c || isBreak c

def byteOrderMark : Char := '\ufeff'

def startsWithGap : List Char → Bool
  | [] => true
  | c :: _ => isGap c

structure Place where
  index : Nat
  line : Nat
  column : Nat
  deriving DecidableEq, Repr

def Place.after (place : Place) (c : Char) : Place :=
  if isBreak c then ⟨place.index + 1, place.line + 1, 0⟩
  else ⟨place.index + 1, place.line, place.column + 1⟩

structure Cursor where
  place : Place
  rest : List Char
  deriving Repr

namespace Cursor

def skipChars : Nat → Place → List Char → Cursor
  | count + 1, place, c :: rest => skipChars count (place.after c) rest
  | _, place, rest => ⟨place, rest⟩

def skip (count : Nat) (cursor : Cursor) : Cursor := skipChars count cursor.place cursor.rest

def spanFrom (p : Char → Bool) (acc : List Char) : Place → List Char → List Char × Cursor
  | place, [] => (acc.reverse, ⟨place, []⟩)
  | place, c :: rest =>
    if p c then spanFrom p (c :: acc) (place.after c) rest else (acc.reverse, ⟨place, c :: rest⟩)

def span (p : Char → Bool) (cursor : Cursor) : List Char × Cursor :=
  spanFrom p [] cursor.place cursor.rest

def skipWhile (p : Char → Bool) (cursor : Cursor) : Cursor := (cursor.span p).2

def skipToBreak (cursor : Cursor) : Cursor :=
  let cursor := cursor.skipWhile isBlank
  match cursor.rest with
  | '#' :: _ => cursor.skipWhile fun c => !isBreak c
  | _ => cursor

def endLine? (cursor : Cursor) : Option Cursor :=
  match (cursor.skipToBreak).rest with
  | [] => some cursor.skipToBreak
  | c :: _ => if isBreak c then some (cursor.skipToBreak.skip 1) else none

end Cursor

/-- Three hyphens or three full stops on their own at the start of a line. -/
def isDocumentMark (place : Place) (cs : List Char) : Bool :=
  place.column == 0 && match cs with
    | '-' :: '-' :: '-' :: rest => startsWithGap rest
    | '.' :: '.' :: '.' :: rest => startsWithGap rest
    | _ => false

def isWordChar (c : Char) : Bool := c.isAlphanum || c == '_' || c == '-'

def isOneOf (marks : List Char) (c : Char) : Bool := marks.contains c

end FederationConfig.Yaml
