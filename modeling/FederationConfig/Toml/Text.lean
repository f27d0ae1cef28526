/-!
Strings of a TOML text. The closing quotes are found first, and what stands in front of them is
decoded after that.
-/

namespace FederationConfig.Toml

/-- Strings are basic (with escapes) or literal, and stand on one line or on several. -/
structure Quotation where
  basic : Bool
  lines : Bool
  deriving DecidableEq, Repr

def Quotation.mark (quotation : Quotation) : Char := if quotation.basic then '"' else '\''

def countMarks (mark : Char) : Nat → List Char → Nat
  | most + 1, c :: rest => if c = mark then countMarks mark most rest + 1 else 0
  | _, _ => 0

/-- Cuts a string off at its closing quotes. Of up to five quotes at the end of a string of
several lines the last three close it. -/
def cutBody? (quotation : Quotation) (escaped : Bool) (acc : List Char) :
    List Char → Option (List Char × List Char)
  | [] => none
  | c :: rest =>
    if escaped then cutBody? quotation false (c :: acc) rest
    else if c = quotation.mark then
      let marks := countMarks c 5 (c :: rest)
      if !quotation.lines then some (acc.reverse, rest)
      else if marks < 3 then cutBody? quotation false (c :: acc) rest
      else some (acc.reverse ++ List.replicate (marks - 3) c, rest.drop (marks - 1))
    else cutBody? quotation (quotation.basic && c = '\\') (c :: acc) rest

def isTextChar (c : Char) : Bool := c == '\t' || (' ' ≤ c && c != '\x7f')

def isBody (lines : Bool) : List Char → Bool
  | [] => true
  | '\r' :: '\n' :: rest => lines && isBody lines rest
  | '\n' :: rest => lines && isBody lines rest
  | c :: rest => isTextChar c && isBody lines rest

def dropFirstBreak : List Char → List Char
  | '\r' :: '\n' :: rest => rest
  | '\n' :: rest => rest
  | cs => cs

/-- Where a decoding stands. A backslash at the end of a line removes the blanks up to the next
character. -/
inductive EscapeCursor where
  | plain
  | escape
  | hex (value remaining : Nat)
  | fold (broken : Bool)
  deriving Repr

def ofShortEscape? (c : Char) : Option Char :=
  match c with
  | 'b' => some '\x08'
  | 't' => some '\t'
  | 'n' => some '\n'
  | 'f' => some '\x0c'
  | 'r' => some '\r'
  | 'e' => some '\x1b'
  | '"' => some '"'
  | '\\' => some '\\'
  | _ => none

def hexLength? (c : Char) : Option Nat :=
  match c with
  | 'x' => some 2
  | 'u' => some 4
  | 'U' => some 8
  | _ => none

def digitOf? (base : Nat) (c : Char) : Option Nat :=
  let digit := if c.isDigit then c.toNat - '0'.toNat
    else if c.isLower then c.toNat - 'a'.toNat + 10
    else if c.isUpper then c.toNat - 'A'.toNat + 10
    else base
  if digit < base then some digit else none

def scalar? (codePoint : Nat) : Option Char :=
  if codePoint.isValidChar then some (Char.ofNat codePoint) else none

def EscapeCursor.step? (lines : Bool) (acc : List Char) (c : Char) :
    EscapeCursor → Option (EscapeCursor × List Char)
  | plain => some (if c = '\\' then (escape, acc) else (plain, c :: acc))
  | escape =>
    match ofShortEscape? c, hexLength? c with
    | some decoded, _ => some (plain, decoded :: acc)
    | none, some length => some (hex 0 length, acc)
    | none, none => if lines && c.isWhitespace then some (fold (c = '\n'), acc) else none
  | hex value remaining =>
    (digitOf? 16 c).bind fun digit =>
      let value := 16 * value + digit
      if remaining = 1 then (scalar? value).map fun decoded => (plain, decoded :: acc)
      else some (hex value (remaining - 1), acc)
  | fold broken =>
    if c.isWhitespace then some (fold (broken || c = '\n'), acc)
    else if broken then some (if c = '\\' then (escape, acc) else (plain, c :: acc))
    else none

def decode? (lines : Bool) (cursor : EscapeCursor) (acc : List Char) :
    List Char → Option (List Char)
  | [] => match cursor with
    | .plain => some acc.reverse
    | .fold true => some acc.reverse
    | _ => none
  | c :: rest =>
    match cursor.step? lines acc c with
    | none => none
    | some (cursor, acc) => decode? lines cursor acc rest

def Quotation.read? (quotation : Quotation) (cs : List Char) : Option (String × List Char) :=
  match cutBody? quotation false [] (if quotation.lines then dropFirstBreak cs else cs) with
  | none => none
  | some (body, rest) =>
    if isBody quotation.lines body then
      (if quotation.basic then decode? quotation.lines .plain [] body else some body).map
        fun decoded => (String.ofList decoded, rest)
    else none

def readString? (basic : Bool) : List Char → Option (String × List Char)
  | c :: d :: rest =>
    let mark := Quotation.mark ⟨basic, false⟩
    if c = mark ∧ d = mark then Quotation.read? ⟨basic, true⟩ rest
    else Quotation.read? ⟨basic, false⟩ (c :: d :: rest)
  | cs => Quotation.read? ⟨basic, false⟩ cs

end FederationConfig.Toml
