import FederationConfig.Yaml.Block
import FederationConfig.Yaml.Property

/-!
The tokens of a YAML text. Indentation opens and closes block collections. Whether a scalar is a
key shows only at the colon behind it, so a token that may start a key is remembered, and the
tokens that open a mapping are put in front of it later.
-/

namespace FederationConfig.Yaml

/-- A token that may start a key. A required one must turn out to be a key. -/
structure PendingKey where
  required : Bool
  position : Nat
  place : Place
  deriving Repr

def greatestKeyLength : Nat := 1024

def greatestDepth : Nat := 128

/-- The state of a scan. Tokens are in reverse. There is a place for a pending key in the block
and in each open flow collection, of which `outerKeys` belong to the outer ones. -/
structure Scanner where
  cursor : Cursor
  indent : Int
  outerIndents : List Int
  keyAllowed : Bool
  pendingKey : Option PendingKey
  outerKeys : List (Option PendingKey)
  tokens : List Token
  count : Nat
  ended : Bool

namespace Scanner

def ofChars (cs : List Char) : Scanner :=
  ⟨⟨⟨0, 0, 0⟩, cs⟩, -1, [], true, none, [], [], 0, false⟩

def inFlow (scanner : Scanner) : Bool := !scanner.outerKeys.isEmpty

def push (scanner : Scanner) (token : Token) : Scanner :=
  { scanner with tokens := token :: scanner.tokens, count := scanner.count + 1 }

def insert (scanner : Scanner) (position : Nat) (token : Token) : Scanner :=
  let later := scanner.count - position
  { scanner with
    tokens := scanner.tokens.take later ++ token :: scanner.tokens.drop later
    count := scanner.count + 1 }

def openBlock (scanner : Scanner) (column position : Nat) (token : Token) : Scanner :=
  if scanner.inFlow || decide ((column : Int) ≤ scanner.indent) then scanner
  else
    { scanner.insert position token with
      indent := column
      outerIndents := scanner.indent :: scanner.outerIndents }

/-- Tokens that close the block collections indented by more than `column`, in front of the
others, with the indentations that stay. -/
def closeBlocks (column indent : Int) (tokens : List Token) (count : Nat) :
    List Int → Int × List Int × List Token × Nat
  | [] => (indent, [], tokens, count)
  | outer :: rest =>
    if column < indent then closeBlocks column outer (.blockEnd :: tokens) (count + 1) rest
    else (indent, outer :: rest, tokens, count)

def closeTo (scanner : Scanner) (column : Int) : Scanner :=
  if scanner.inFlow then scanner
  else
    let (indent, outerIndents, tokens, count) :=
      closeBlocks column scanner.indent scanner.tokens scanner.count scanner.outerIndents
    { scanner with indent, outerIndents, tokens, count }

def dropKey? (scanner : Scanner) : Option Scanner :=
  if scanner.pendingKey.any PendingKey.required then none
  else some { scanner with pendingKey := none }

/-- Remembers the token to come as one that may start a key. In a block it must be one if it
stands at the indentation of the block. -/
def saveKey? (scanner : Scanner) : Option Scanner :=
  if scanner.keyAllowed then
    scanner.dropKey?.map fun dropped =>
      let place := scanner.cursor.place
      let required := !scanner.inFlow && scanner.indent == place.column
      { dropped with pendingKey := some ⟨required, scanner.count, place⟩ }
  else some scanner

def isStale (place : Place) (key : PendingKey) : Bool :=
  key.place.line < place.line || key.place.index + greatestKeyLength < place.index

def dropStale? (place : Place) (key : Option PendingKey) : Option (Option PendingKey) :=
  match key with
  | none => some none
  | some key =>
    if isStale place key then if key.required then none else some none else some (some key)

def dropStaleKeys? (scanner : Scanner) : Option Scanner :=
  match dropStale? scanner.cursor.place scanner.pendingKey,
      scanner.outerKeys.mapM (dropStale? scanner.cursor.place) with
  | some pendingKey, some outerKeys => some { scanner with pendingKey, outerKeys }
  | _, _ => none

/-- Skips blanks, comments and line breaks. A line break in a block allows keys again, and tabs
may not stand where a key may start. -/
def skipGap (inFlow allowed comment : Bool) : Place → List Char → Bool × Cursor
  | place, [] => (allowed, ⟨place, []⟩)
  | place, c :: rest =>
    if isBreak c then skipGap inFlow (allowed || !inFlow) false (place.after c) rest
    else if comment then skipGap inFlow allowed true (place.after c) rest
    else if c = byteOrderMark ∧ place.column = 0 then
      skipGap inFlow allowed false (place.after c) rest
    else if c = ' ' ∨ (c = '\t' ∧ (inFlow || !allowed)) then
      skipGap inFlow allowed false (place.after c) rest
    else if c = '#' then skipGap inFlow allowed true (place.after c) rest
    else (allowed, ⟨place, c :: rest⟩)

def toNextToken (scanner : Scanner) : Scanner :=
  let (keyAllowed, cursor) :=
    skipGap scanner.inFlow scanner.keyAllowed false scanner.cursor.place scanner.cursor.rest
  { scanner with keyAllowed, cursor }

def take (scanner : Scanner) (length : Nat) (token : Token) : Scanner :=
  { scanner.push token with cursor := scanner.cursor.skip length }

def accept (scanner : Scanner) (found : Option (Token × Cursor)) : Option Scanner :=
  found.map fun (token, cursor) => { scanner.push token with cursor }

def leaveBlocks? (scanner : Scanner) : Option Scanner :=
  (scanner.closeTo (-1)).dropKey?.map fun scanner => { scanner with keyAllowed := false }

def finish? (scanner : Scanner) : Option Scanner :=
  scanner.leaveBlocks?.map fun scanner => { scanner.push .streamEnd with ended := true }

def directive? (scanner : Scanner) : Option Scanner :=
  scanner.leaveBlocks?.bind fun scanner => scanner.accept (Yaml.directive? (scanner.cursor.skip 1))

def documentMark? (scanner : Scanner) (token : Token) : Option Scanner :=
  scanner.leaveBlocks?.map fun scanner => scanner.take 3 token

def openFlow? (scanner : Scanner) (token : Token) : Option Scanner :=
  if scanner.outerKeys.length < greatestDepth then
    scanner.saveKey?.map fun scanner =>
      { scanner.take 1 token with
        keyAllowed := true
        pendingKey := none
        outerKeys := scanner.pendingKey :: scanner.outerKeys }
  else none

/-- Without an open flow collection the indicator is a token all the same. -/
def closeFlow? (scanner : Scanner) (token : Token) : Option Scanner :=
  scanner.dropKey?.map fun scanner =>
    match scanner.outerKeys with
    | [] => { scanner.take 1 token with keyAllowed := false }
    | pendingKey :: outerKeys =>
      { scanner.take 1 token with keyAllowed := false, pendingKey, outerKeys }

def comma? (scanner : Scanner) : Option Scanner :=
  scanner.dropKey?.map fun scanner => { scanner.take 1 .flowEntry with keyAllowed := true }

def openAtIndicator? (scanner : Scanner) (opening : Token) : Option Scanner :=
  if scanner.inFlow then some scanner
  else if scanner.keyAllowed then
    some (scanner.openBlock scanner.cursor.place.column scanner.count opening)
  else none

def blockItem? (scanner : Scanner) : Option Scanner :=
  ((scanner.openAtIndicator? .blockSequence).bind dropKey?).map fun scanner =>
    { scanner.take 1 .blockEntry with keyAllowed := true }

def key? (scanner : Scanner) : Option Scanner :=
  ((scanner.openAtIndicator? .blockMapping).bind dropKey?).map fun scanner =>
    { scanner.take 1 .key with keyAllowed := !scanner.inFlow }

/-- A colon makes a key of the pending token, or else follows a key with an indicator. -/
def value? (scanner : Scanner) : Option Scanner :=
  match scanner.pendingKey with
  | some key =>
    let opened := (scanner.insert key.position .key).openBlock
      key.place.column key.position .blockMapping
    some { opened.take 1 .value with pendingKey := none, keyAllowed := false }
  | none =>
    (scanner.openAtIndicator? .blockMapping).map fun scanner =>
      { scanner.take 1 .value with keyAllowed := !scanner.inFlow }

def keyStart? (scanner : Scanner) (found : Option (Token × Cursor)) : Option Scanner :=
  scanner.saveKey?.bind fun saved => { saved with keyAllowed := false }.accept found

def ofName (make : String → Token) (found : Option (String × Cursor)) : Option (Token × Cursor) :=
  found.map fun (name, cursor) => (make name, cursor)

def blockScalar? (scanner : Scanner) (folded : Bool) : Option Scanner :=
  scanner.dropKey?.bind fun scanner =>
    { scanner with keyAllowed := true }.accept (ofName (.scalar · false)
      (Yaml.blockScalar? folded scanner.indent (scanner.cursor.skip 1)))

def quoted? (scanner : Scanner)
    (read? : Place → List Char → Option (String × Cursor)) : Option Scanner :=
  let behind := scanner.cursor.skip 1
  scanner.keyStart? (ofName (.scalar · false) (read? behind.place behind.rest))

/-- A plain scalar that ends at a later line than it starts allows a key behind it. -/
def plain? (scanner : Scanner) : Option Scanner :=
  match scanner.saveKey?, Yaml.plain? scanner.inFlow (scanner.indent + 1) [] .empty
      scanner.cursor.place scanner.cursor.rest with
  | some saved, some (acc, gap, cursor) =>
    some { saved.push (.scalar (String.ofList acc.reverse) true) with
      cursor
      keyAllowed := gap.broken }
  | _, _ => none

def indicators : List Char :=
  ['-', '?', ':', ',', '[', ']', '\x7b', '\x7d', '#', '&', '*', '!', '|', '>', '\'', '"', '%',
    '@', '\x60']

def startsPlain (inFlow : Bool) (c : Char) (rest : List Char) : Bool :=
  !(isGap c || isOneOf indicators c) ||
    (c == '-' && !rest.head?.any isBlank) ||
    (!inFlow && (c == '?' || c == ':') && !startsWithGap rest)

def tokenAt? (scanner : Scanner) (c : Char) (rest : List Char) : Option Scanner :=
  let cursor := scanner.cursor
  let opensBlock := startsWithGap rest
  let indicates := scanner.inFlow || opensBlock
  if c = '%' ∧ cursor.place.column = 0 then scanner.directive?
  else if isDocumentMark cursor.place (c :: rest) then
    scanner.documentMark? (if c = '-' then .documentStart else .documentEnd)
  else if c = '[' then scanner.openFlow? .flowSequence
  else if c = '\x7b' then scanner.openFlow? .flowMapping
  else if c = ']' then scanner.closeFlow? .flowSequenceEnd
  else if c = '\x7d' then scanner.closeFlow? .flowMappingEnd
  else if c = ',' then scanner.comma?
  else if c = '-' ∧ opensBlock then scanner.blockItem?
  else if c = '?' ∧ indicates then scanner.key?
  else if c = ':' ∧ indicates then scanner.value?
  else if c = '*' then scanner.keyStart? (ofName .alias (anchorName? (cursor.skip 1)))
  else if c = '&' then scanner.keyStart? (ofName .anchor (anchorName? (cursor.skip 1)))
  else if c = '!' then scanner.keyStart? (tag? scanner.inFlow cursor)
  else if c = '|' ∧ !scanner.inFlow then scanner.blockScalar? false
  else if c = '>' ∧ !scanner.inFlow then scanner.blockScalar? true
  else if c = '\'' then scanner.quoted? (singleQuoted? [] .empty)
  else if c = '"' then scanner.quoted? (doubleQuoted? .plain [] .empty)
  else if startsPlain scanner.inFlow c rest then scanner.plain?
  else none

def next? (scanner : Scanner) : Option Scanner :=
  match scanner.toNextToken.dropStaleKeys? with
  | none => none
  | some scanner =>
    let scanner := scanner.closeTo scanner.cursor.place.column
    match scanner.cursor.rest with
    | [] => scanner.finish?
    | c :: rest => scanner.tokenAt? c rest

def run : Nat → Scanner → List Token
  | 0, scanner => scanner.tokens.reverse
  | fuel + 1, scanner =>
    if scanner.ended then scanner.tokens.reverse
    else match scanner.next? with
      | none => scanner.tokens.reverse
      | some scanner => run fuel scanner

end Scanner

/-- The tokens of a text. They end with `streamEnd` unless a part of it is malformed. Every step
takes a character, so that the number of characters bounds the number of steps. -/
def tokens (cs : List Char) : List Token := (Scanner.ofChars cs).run (cs.length + 2)

end FederationConfig.Yaml
