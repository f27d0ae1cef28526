import FederationConfig.Yaml.Quoted
import FederationConfig.Yaml.Token

namespace FederationConfig.Yaml

def afterAnchor : List Char := ['?', ':', ',', ']', '\x7d', '%', '@', '\x60']

def anchorName? (cursor : Cursor) : Option (String × Cursor) :=
  let (name, rest) := cursor.span isWordChar
  let ends := startsWithGap rest.rest || rest.rest.head?.any (isOneOf afterAnchor)
  if name = [] ∨ !ends then none else some (String.ofList name, rest)

def uriMarks : List Char :=
  [';', '/', '?', ':', '@', '&', '=', '+', '$', '.', '!', '~', '*', '\'', '(', ')']

def verbatimMarks : List Char := [',', '[', ']']

def isUriChar (verbatim : Bool) (c : Char) : Bool :=
  isWordChar c || isOneOf uriMarks c || (verbatim && isOneOf verbatimMarks c)

/-- How many octets follow the first one of a character, and what that one adds to it. -/
def firstOctet? (octet : Nat) : Option (Nat × Nat) :=
  if octet < 0x80 then some (0, octet)
  else if octet < 0xC0 then none
  else if octet < 0xE0 then some (1, octet - 0xC0)
  else if octet < 0xF0 then some (2, octet - 0xE0)
  else if octet < 0xF8 then some (3, octet - 0xF0)
  else none

def nextOctet? (owed value octet : Nat) : Option (Nat × Nat) :=
  if owed = 0 then firstOctet? octet
  else if 0x80 ≤ octet ∧ octet < 0xC0 then some (owed - 1, 64 * value + (octet - 0x80))
  else none

def escapedOctet? (c d : Char) : Option Nat :=
  match hexDigit? c, hexDigit? d with
  | some high, some low => some (16 * high + low)
  | _, _ => none

/-- Reads a URI. Octets of a character may be escaped; `owed` of them are still to come. -/
def uri? (verbatim : Bool) (acc : List Char) (owed value : Nat) :
    Place → List Char → Option (List Char × Cursor)
  | place, '%' :: c :: d :: rest =>
    match (escapedOctet? c d).bind (nextOctet? owed value) with
    | none => none
    | some (owed, value) =>
      let place := ((place.after '%').after c).after d
      if owed = 0 then
        if value.isValidChar then uri? verbatim (Char.ofNat value :: acc) 0 0 place rest else none
      else uri? verbatim acc owed value place rest
  | place, c :: rest =>
    if owed ≠ 0 ∨ c = '%' then none
    else if isUriChar verbatim c then uri? verbatim (c :: acc) 0 0 (place.after c) rest
    else some (acc.reverse, ⟨place, c :: rest⟩)
  | place, [] => if owed = 0 then some (acc.reverse, ⟨place, []⟩) else none

/-- The characters of a handle, which starts with `!` and may end with another one. -/
def cutHandle? (cursor : Cursor) : Option (List Char × Cursor) :=
  match cursor.rest with
  | '!' :: _ =>
    let (name, rest) := (cursor.skip 1).span isWordChar
    match rest.rest with
    | '!' :: _ => some ('!' :: name ++ ['!'], rest.skip 1)
    | _ => some ('!' :: name, rest)
  | _ => none

def isNamedHandle (handle : List Char) : Bool :=
  decide (2 ≤ handle.length) && handle.getLast? == some '!'

def verbatimTag? (cursor : Cursor) : Option (Token × Cursor) :=
  match uri? true [] 0 0 cursor.place cursor.rest with
  | some (uri, rest) => match uri, rest.rest with
    | _ :: _, '>' :: _ => some (.tag "" (String.ofList uri), rest.skip 1)
    | _, _ => none
  | none => none

/-- A tag with a handle, or with the handle `!` and a suffix. A lone `!` is a tag itself. -/
def shorthandTag? (cursor : Cursor) : Option (Token × Cursor) :=
  match cutHandle? cursor with
  | none => none
  | some (handle, rest) =>
    if isNamedHandle handle then
      match uri? false [] 0 0 rest.place rest.rest with
      | some (suffix, rest) =>
        if suffix = [] then none
        else some (.tag (String.ofList handle) (String.ofList suffix), rest)
      | none => none
    else
      (uri? false handle.tail.reverse 0 0 rest.place rest.rest).map fun (suffix, rest) =>
        (if suffix = [] then .tag "" "!" else .tag "!" (String.ofList suffix), rest)

def tag? (inFlow : Bool) (cursor : Cursor) : Option (Token × Cursor) :=
  let found := match cursor.rest with
    | '!' :: '<' :: _ => verbatimTag? (cursor.skip 2)
    | _ => shorthandTag? cursor
  found.filter fun (_, rest) =>
    startsWithGap rest.rest || (inFlow && rest.rest.head? == some ',')

def versionPart? (cursor : Cursor) : Option (Nat × Cursor) :=
  let (digits, rest) := cursor.span Char.isDigit
  if digits = [] ∨ 9 < digits.length then none else some (Nat.ofDigitChars 10 digits 0, rest)

def versionDirective? (cursor : Cursor) : Option (Token × Cursor) :=
  match versionPart? (cursor.skipWhile isBlank) with
  | some (major, rest) => match rest.rest with
    | '.' :: _ => (versionPart? (rest.skip 1)).map fun (minor, rest) => (.version major minor, rest)
    | _ => none
  | none => none

def tagDirective? (cursor : Cursor) : Option (Token × Cursor) :=
  match cutHandle? (cursor.skipWhile isBlank) with
  | some (handle, rest) =>
    let behind := rest.skipWhile isBlank
    if (handle = ['!'] ∨ isNamedHandle handle) ∧ rest.rest.head?.any isBlank then
      match uri? true [] 0 0 behind.place behind.rest with
      | some (expansion, rest) =>
        if expansion = [] ∨ !startsWithGap rest.rest then none
        else some (.tagHandle (String.ofList handle) (String.ofList expansion), rest)
      | none => none
    else none
  | none => none

def directive? (cursor : Cursor) : Option (Token × Cursor) :=
  let (name, rest) := cursor.span isWordChar
  let found :=
    if !startsWithGap rest.rest then none
    else if name = ['Y', 'A', 'M', 'L'] then versionDirective? rest
    else if name = ['T', 'A', 'G'] then tagDirective? rest
    else none
  match found with
  | none => none
  | some (token, rest) => rest.endLine?.map fun rest => (token, rest)

end FederationConfig.Yaml
