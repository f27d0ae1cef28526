import FederationConfig.Yaml.Plain

namespace FederationConfig.Yaml

def ofEscape? (c : Char) : Option Char :=
  match c with
  | '0' => some '\x00'
  | 'a' => some '\x07'
  | 'b' => some '\x08'
  | 't' => some '\t'
  | '\t' => some '\t'
  | 'n' => some '\n'
  | 'v' => some '\x0b'
  | 'f' => some '\x0c'
  | 'r' => some '\r'
  | 'e' => some '\x1b'
  | ' ' => some ' '
  | '"' => some '"'
  | '/' => some '/'
  | '\\' => some '\\'
  | 'N' => some '\u0085'
  | '_' => some '\u00a0'
  | 'L' => some '\u2028'
  | 'P' => some '\u2029'
  | _ => none

def hexLength? (c : Char) : Option Nat :=
  match c with
  | 'x' => some 2
  | 'u' => some 4
  | 'U' => some 8
  | _ => none

def hexDigit? (c : Char) : Option Nat :=
  if c.isDigit then some (c.toNat - '0'.toNat)
  else if 'a' ≤ c ∧ c ≤ 'f' then some (c.toNat - 'a'.toNat + 10)
  else if 'A' ≤ c ∧ c ≤ 'F' then some (c.toNat - 'A'.toNat + 10)
  else none

def singleQuoted? (acc : List Char) (gap : Gap) : Place → List Char → Option (String × Cursor)
  | _, [] => none
  | place, c :: rest =>
    if isGap c then singleQuoted? acc (gap.add c) (place.after c) rest
    else if isDocumentMark place (c :: rest) then none
    else if c = '\'' then
      match rest with
      | '\'' :: rest =>
        singleQuoted? ('\'' :: (gap.fold ++ acc)) .empty ((place.after c).after c) rest
      | _ => some (String.ofList (gap.fold ++ acc).reverse, ⟨place.after c, rest⟩)
    else singleQuoted? (c :: (gap.fold ++ acc)) .empty (place.after c) rest

inductive QuoteCursor where
  | plain
  | escape
  | hex (value remaining : Nat)
  deriving Repr

/-- One character of an escape: what it gives, with the gap that a line break leaves. -/
def QuoteCursor.escapeStep? (acc : List Char) (c : Char) :
    QuoteCursor → Option (QuoteCursor × List Char × Gap)
  | plain => none
  | escape =>
    if isBreak c then some (plain, acc, .joined)
    else match ofEscape? c, hexLength? c with
      | some decoded, _ => some (plain, decoded :: acc, .empty)
      | none, some length => some (hex 0 length, acc, .empty)
      | none, none => none
  | hex value remaining =>
    (hexDigit? c).bind fun digit =>
      let value := 16 * value + digit
      if 1 < remaining then some (hex value (remaining - 1), acc, .empty)
      else if value.isValidChar then some (plain, Char.ofNat value :: acc, .empty)
      else none

def doubleQuoted? (cursor : QuoteCursor) (acc : List Char) (gap : Gap) :
    Place → List Char → Option (String × Cursor)
  | _, [] => none
  | place, c :: rest =>
    match cursor with
    | .plain =>
      if isGap c then doubleQuoted? .plain acc (gap.add c) (place.after c) rest
      else if isDocumentMark place (c :: rest) then none
      else if c = '"' then some (String.ofList (gap.fold ++ acc).reverse, ⟨place.after c, rest⟩)
      else if c = '\\' then doubleQuoted? .escape (gap.fold ++ acc) .empty (place.after c) rest
      else doubleQuoted? .plain (c :: (gap.fold ++ acc)) .empty (place.after c) rest
    | inEscape =>
      match inEscape.escapeStep? acc c with
      | none => none
      | some (cursor, acc, gap) => doubleQuoted? cursor acc gap (place.after c) rest

end FederationConfig.Yaml
