import FederationConfig.Number.Reading
import FederationConfig.Tree.Basic

/-!
What a scalar means. A plain one may be null, a boolean, an integer or a float; everything else
is text, unless a tag asks for one of these.
-/

namespace FederationConfig.Yaml

def isNull (text : String) : Bool :=
  text == "null" || text == "Null" || text == "NULL" || text == "~"

def boolean? (text : String) : Option Bool :=
  if text = "true" ∨ text = "True" ∨ text = "TRUE" then some true
  else if text = "false" ∨ text = "False" ∨ text = "FALSE" then some false
  else none

def digitOf? (base : Nat) (c : Char) : Option Nat :=
  let digit := if c.isDigit then c.toNat - '0'.toNat
    else if c.isLower then c.toNat - 'a'.toNat + 10
    else if c.isUpper then c.toNat - 'A'.toNat + 10
    else base
  if digit < base then some digit else none

def naturalFrom? (base : Nat) : Nat → List Char → Option Nat
  | value, [] => some value
  | value, c :: rest => match digitOf? base c with
    | some digit => naturalFrom? base (base * value + digit) rest
    | none => none

def natural? (base : Nat) (cs : List Char) : Option Nat :=
  if cs = [] then none else naturalFrom? base 0 cs

def hasLeadingZero (digits : List Char) : Bool :=
  match digits with
  | '0' :: _ :: _ => digits.all Char.isDigit
  | _ => false

def magnitude? (cs : List Char) : Option Nat :=
  match cs with
  | '0' :: 'x' :: rest => natural? 16 rest
  | '0' :: 'o' :: rest => natural? 8 rest
  | '0' :: 'b' :: rest => natural? 2 rest
  | _ => if hasLeadingZero cs then none else natural? 10 cs

def integer? (cs : List Char) : Option Int :=
  match cs with
  | '-' :: rest => (magnitude? rest).map fun value => -(value : Int)
  | '+' :: rest => (magnitude? rest).map fun value => (value : Int)
  | _ => (magnitude? cs).map fun value => (value : Int)

def unsignedPart : List Char → List Char
  | '-' :: rest => rest
  | '+' :: rest => rest
  | cs => cs

def isInfinityName (cs : List Char) : Bool :=
  cs == ['.', 'i', 'n', 'f'] || cs == ['.', 'I', 'n', 'f'] || cs == ['.', 'I', 'N', 'F']

def isNanName (cs : List Char) : Bool :=
  cs == ['.', 'n', 'a', 'n'] || cs == ['.', 'N', 'a', 'N'] || cs == ['.', 'N', 'A', 'N']

def decimal? (cs : List Char) : Option Binary64 :=
  (Binary64.ofText? (String.ofList cs)).filter Binary64.isFinite

def float? (cs : List Char) : Option Binary64 :=
  if isInfinityName (unsignedPart cs) then some (.infinite (cs.head? == some '-'))
  else if isNanName cs then some .nan
  else decimal? cs

/-- Integers have 64 bits, signed or not. Others of up to 128 bits are refused. -/
def ofInteger? (value : Int) : Option Tree :=
  if -2 ^ 63 ≤ value ∧ value < 2 ^ 64 then some (.integer value) else none

def isWide (value : Int) : Bool := decide (value < -2 ^ 127) || decide (2 ^ 128 ≤ value)

def ofFloatText (text : String) : Tree :=
  if hasLeadingZero (unsignedPart text.toList) then .text text
  else match float? text.toList with
    | some value => .float value
    | none => .text text

def ofPlain? (text : String) : Option Tree :=
  if text = "" ∨ isNull text then some .null
  else match boolean? text with
    | some value => some (.bool value)
    | none => match integer? text.toList with
      | some value => if isWide value then some (ofFloatText text) else ofInteger? value
      | none => some (ofFloatText text)

def ownTag? (tag : String) : Option String :=
  match tag.toList with
  | '!' :: name => some (String.ofList name)
  | _ => none

def standardTag (name : String) : String := "tag:yaml.org,2002:" ++ name

def ofTagged? (tag text : String) : Option Tree :=
  if tag = standardTag "bool" then (boolean? text).map .bool
  else if tag = standardTag "int" then
    (integer? text.toList).bind fun value => if isWide value then none else ofInteger? value
  else if tag = standardTag "float" then (float? text.toList).map .float
  else if tag = standardTag "null" then if isNull text then some .null else none
  else some (.text text)

def ofScalar? (text : String) (plain : Bool) : Option Tree :=
  if plain then ofPlain? text else some (.text text)

def withTag? (tag : Option String) (tree : Tree) : Option Tree :=
  match tag.bind ownTag? with
  | none => some tree
  | some name => if name = "" then none else some (.tagged name tree)

def scalar? (tag : Option String) (text : String) (plain : Bool) : Option Tree :=
  match tag with
  | none => ofScalar? text plain
  | some given =>
    if (ownTag? given).isSome then (ofScalar? text plain).bind (withTag? tag)
    else ofTagged? given text

end FederationConfig.Yaml
