import FederationConfig.Json.Number

/-! The tokens of a JSON text, found in one pass over its characters. -/

namespace FederationConfig.Json

inductive Token where
  | openList
  | closeList
  | openObject
  | closeObject
  | comma
  | colon
  | value (value : Json)
  deriving Repr

/-- Where a string stands: between characters or within an escape. A code unit that opens a
surrogate pair waits for its partner. -/
inductive StringCursor where
  | plain
  | escape
  | hex (opening : Option Nat) (value count : Nat)
  | partner (opening : Nat)
  | partnerEscape (opening : Nat)
  deriving Repr

def hexDigit? (c : Char) : Option Nat :=
  if c.isDigit then some (c.toNat - '0'.toNat)
  else if 'a' ≤ c ∧ c ≤ 'f' then some (c.toNat - 'a'.toNat + 10)
  else if 'A' ≤ c ∧ c ≤ 'F' then some (c.toNat - 'A'.toNat + 10)
  else none

def ofEscape? (c : Char) : Option Char :=
  match c with
  | '"' => some '"'
  | '\\' => some '\\'
  | '/' => some '/'
  | 'b' => some '\x08'
  | 'f' => some '\x0c'
  | 'n' => some '\n'
  | 'r' => some '\r'
  | 't' => some '\t'
  | _ => none

def isOpeningSurrogate (unit : Nat) : Bool := 0xD800 ≤ unit && unit < 0xDC00

def isClosingSurrogate (unit : Nat) : Bool := 0xDC00 ≤ unit && unit < 0xE000

/-- What a complete code unit adds to a string. -/
def afterUnit? (opening : Option Nat) (unit : Nat) (acc : List Char) :
    Option (StringCursor × List Char) :=
  match opening with
  | none =>
    if isOpeningSurrogate unit then some (.partner unit, acc)
    else if isClosingSurrogate unit then none
    else some (.plain, Char.ofNat unit :: acc)
  | some first =>
    if isClosingSurrogate unit then
      some (.plain, Char.ofNat (0x10000 + (first - 0xD800) * 0x400 + (unit - 0xDC00)) :: acc)
    else none

def StringCursor.step? (cursor : StringCursor) (acc : List Char) (c : Char) :
    Option (StringCursor × List Char) :=
  match cursor with
  | .plain =>
    if c = '\\' then some (.escape, acc) else if c < ' ' then none else some (.plain, c :: acc)
  | .escape =>
    if c = 'u' then some (.hex none 0 0, acc)
    else (ofEscape? c).map fun decoded => (.plain, decoded :: acc)
  | .hex opening value count =>
    match hexDigit? c with
    | none => none
    | some digit =>
      let value := 16 * value + digit
      if count = 3 then afterUnit? opening value acc
      else some (.hex opening value (count + 1), acc)
  | .partner opening => if c = '\\' then some (.partnerEscape opening, acc) else none
  | .partnerEscape opening => if c = 'u' then some (.hex (some opening) 0 0, acc) else none

/-- A token with the number of characters in front of it and up to its end. -/
structure PlacedToken where
  token : Token
  start : Nat
  stop : Nat
  deriving Repr

/-- Where a text stands. Characters of the token at hand are kept in reverse, with the place where
it starts. -/
inductive Scanner where
  | between
  | word (start : Nat) (acc : List Char)
  | number (start : Nat) (acc : List Char)
  | string (start : Nat) (cursor : StringCursor) (acc : List Char)
  deriving Repr

def isBlank (c : Char) : Bool := c == ' ' || c == '\n' || c == '\t' || c == '\r'

def isWordChar (c : Char) : Bool := 'a' ≤ c && c ≤ 'z'

def isNumberStart (c : Char) : Bool := c == '-' || c.isDigit

def isNumberChar (c : Char) : Bool :=
  c.isDigit || c == '+' || c == '-' || c == '.' || c == 'e' || c == 'E'

def ofWord? (word : List Char) : Option Json :=
  if word = ['n', 'u', 'l', 'l'] then some .null
  else if word = ['t', 'r', 'u', 'e'] then some (.bool true)
  else if word = ['f', 'a', 'l', 's', 'e'] then some (.bool false)
  else none

def Token.ofMark? (c : Char) : Option Token :=
  match c with
  | '[' => some .openList
  | ']' => some .closeList
  | '\x7b' => some .openObject
  | '\x7d' => some .closeObject
  | ',' => some .comma
  | ':' => some .colon
  | _ => none

namespace Scanner

abbrev State := Scanner × List PlacedToken

def start? (tokens : List PlacedToken) (place : Nat) (c : Char) : Option State :=
  if isBlank c then some (.between, tokens)
  else if c = '"' then some (.string place .plain [], tokens)
  else if isNumberStart c then some (.number place [c], tokens)
  else if isWordChar c then some (.word place [c], tokens)
  else (Token.ofMark? c).map fun token => (.between, ⟨token, place, place + 1⟩ :: tokens)

def close? (tokens : List PlacedToken) (place : Nat) : Scanner → Option (List PlacedToken)
  | .between => some tokens
  | .word start acc => (ofWord? acc.reverse).map fun value => ⟨.value value, start, place⟩ :: tokens
  | .number start acc =>
    (ofNumber? acc.reverse).map fun value => ⟨.value value, start, place⟩ :: tokens
  | .string .. => none

def inString? (tokens : List PlacedToken) (place start : Nat) (cursor : StringCursor)
    (acc : List Char) (c : Char) : Option State :=
  match cursor, c with
  | .plain, '"' =>
    some (.between, ⟨.value (.text (String.ofList acc.reverse)), start, place + 1⟩ :: tokens)
  | _, _ => (cursor.step? acc c).map fun (cursor, acc) => (.string start cursor acc, tokens)

def step? (scanner : Scanner) (tokens : List PlacedToken) (place : Nat) (c : Char) :
    Option State :=
  match scanner with
  | .string start cursor acc => inString? tokens place start cursor acc c
  | .word start acc =>
    if isWordChar c then some (.word start (c :: acc), tokens)
    else (close? tokens place (.word start acc)).bind fun tokens => start? tokens place c
  | .number start acc =>
    if isNumberChar c then some (.number start (c :: acc), tokens)
    else (close? tokens place (.number start acc)).bind fun tokens => start? tokens place c
  | .between => start? tokens place c

def scan? : Scanner → List PlacedToken → Nat → List Char → Option (List PlacedToken)
  | scanner, tokens, place, [] => (scanner.close? tokens place).map List.reverse
  | scanner, tokens, place, c :: rest =>
    match scanner.step? tokens place c with
    | none => none
    | some (scanner, tokens) => scanner.scan? tokens (place + 1) rest

end Scanner

def placedTokens? (text : String) : Option (List PlacedToken) :=
  Scanner.between.scan? [] 0 text.toList

end FederationConfig.Json
