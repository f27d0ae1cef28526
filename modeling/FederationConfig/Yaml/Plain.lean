import FederationConfig.Yaml.Source

namespace FederationConfig.Yaml

structure Gap where
  blanks : List Char
  broken : Bool
  firstBreak : Option Char
  furtherBreaks : List Char
  deriving Repr

namespace Gap

def empty : Gap := ⟨[], false, none, []⟩

def joined : Gap := ⟨[], true, none, []⟩

def isEmpty (gap : Gap) : Bool := gap.blanks.isEmpty && !gap.broken

def add (gap : Gap) (c : Char) : Gap :=
  if isBreak c then
    if gap.broken then { gap with furtherBreaks := c :: gap.furtherBreaks }
    else ⟨[], true, some c, []⟩
  else if gap.broken then gap
  else { gap with blanks := c :: gap.blanks }

/-- A single line feed is a blank; of several the first is dropped. In reverse. -/
def fold (gap : Gap) : List Char :=
  if gap.broken then
    match gap.firstBreak with
    | none => gap.furtherBreaks
    | some c =>
      if c = '\n' then (if gap.furtherBreaks.isEmpty then [' '] else gap.furtherBreaks)
      else gap.furtherBreaks ++ [c]
  else gap.blanks

end Gap

/-- A colon in front of these ends no plain scalar in a flow collection, and is an error. -/
def afterFlowColon : List Char := [',', '?', '[', ']', '\x7b', '\x7d']

def flowMarks : List Char := [',', '[', ']', '\x7b', '\x7d']

def isUnexpectedColon (c : Char) : List Char → Bool
  | [] => false
  | d :: _ => c == ':' && isOneOf afterFlowColon d

/-- The line at which a plain scalar of a block is not continued: one that is indented less than
`indent`, a document mark or a comment. -/
def endsPlain (inFlow : Bool) (indent : Int) (place : Place) (cs : List Char) : Bool :=
  (!inFlow && decide ((place.column : Int) < indent)) || isDocumentMark place cs ||
    cs.head? == some '#'

/-- Reads a plain scalar; gives its characters in reverse, the gap behind it and what follows. -/
def plain? (inFlow : Bool) (indent : Int) (acc : List Char) (gap : Gap) :
    Place → List Char → Option (List Char × Gap × Cursor)
  | place, [] => some (acc, gap, ⟨place, []⟩)
  | place, c :: rest =>
    if isGap c then
      if c = '\t' ∧ gap.broken ∧ (place.column : Int) < indent then none
      else plain? inFlow indent acc (gap.add c) (place.after c) rest
    else if !gap.isEmpty && endsPlain inFlow indent place (c :: rest) then
      some (acc, gap, ⟨place, c :: rest⟩)
    else if inFlow && isUnexpectedColon c rest then none
    else if (c == ':' && startsWithGap rest) || (inFlow && isOneOf flowMarks c) then
      some (acc, gap, ⟨place, c :: rest⟩)
    else plain? inFlow indent (c :: (gap.fold ++ acc)) Gap.empty (place.after c) rest

end FederationConfig.Yaml
