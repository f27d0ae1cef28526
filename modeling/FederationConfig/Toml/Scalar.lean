import FederationConfig.Number.Reading
import FederationConfig.Toml.Text
import FederationConfig.Tree.Basic

namespace FederationConfig.Toml

/-- Digits, of which any two neighbours may have an underscore between them. -/
def digits? (base : Nat) (afterDigit : Bool) (acc : List Nat) : List Char → Option (List Nat)
  | [] => if afterDigit then some acc.reverse else none
  | c :: rest =>
    if c = '_' then if afterDigit then digits? base false acc rest else none
    else match digitOf? base c with
      | some digit => digits? base true (digit :: acc) rest
      | none => none

def valueOf (base : Nat) (digits : List Nat) : Nat :=
  digits.foldl (fun value digit => base * value + digit) 0

def whole? (cs : List Char) : Option (List Nat) :=
  match digits? 10 false [] cs with
  | some (0 :: _ :: _) => none
  | whole => whole

def cutSign : List Char → Bool × List Char
  | '-' :: rest => (true, rest)
  | '+' :: rest => (false, rest)
  | cs => (false, cs)

def prefixed? : List Char → Option Nat
  | '0' :: 'x' :: rest => (digits? 16 false [] rest).map (valueOf 16)
  | '0' :: 'o' :: rest => (digits? 8 false [] rest).map (valueOf 8)
  | '0' :: 'b' :: rest => (digits? 2 false [] rest).map (valueOf 2)
  | _ => none

def magnitude? (cs : List Char) : Option Int :=
  match prefixed? cs with
  | some value => some value
  | none =>
    let (negative, magnitude) := cutSign cs
    (whole? magnitude).map fun digits =>
      let value : Int := valueOf 10 digits
      if negative then -value else value

def integer? (cs : List Char) : Option Tree :=
  match magnitude? cs with
  | some value => if -2 ^ 63 ≤ value ∧ value < 2 ^ 64 then some (.integer value) else none
  | none => none

def isExponentMark (c : Char) : Bool := c == 'e' || c == 'E'

def fraction? : List Char → Option (List Nat)
  | [] => some []
  | '.' :: rest => digits? 10 false [] rest
  | _ => none

def exponent? : List Char → Option Int
  | [] => some 0
  | _ :: rest =>
    let (negative, magnitude) := cutSign rest
    (digits? 10 false [] magnitude).map fun digits =>
      let value : Int := Binary64.exponentOfDigits (digits.map Nat.digitChar)
      if negative then -value else value

def decimal? (negative : Bool) (cs : List Char) : Option Binary64 :=
  let isPart (c : Char) : Bool := c != '.' && !isExponentMark c
  let mantissa := cs.takeWhile fun c => !isExponentMark c
  match whole? (mantissa.takeWhile isPart), fraction? (mantissa.dropWhile isPart),
      exponent? (cs.dropWhile fun c => !isExponentMark c) with
  | some whole, some fraction, some exponent =>
    some (Binary64.ofDecimal negative (valueOf 10 (whole ++ fraction))
      (exponent - fraction.length))
  | _, _, _ => none

def float? (cs : List Char) : Option Tree :=
  let (negative, magnitude) := cutSign cs
  if magnitude = ['i', 'n', 'f'] then some (.float (.infinite negative))
  else if magnitude = ['n', 'a', 'n'] then some (.float .nan)
  else if magnitude.all fun c => c != '.' && !isExponentMark c then none
  else match decimal? negative magnitude with
    | some x => if x.isFinite then some (.float x) else none
    | none => none

def daysIn (year month : Nat) : Nat :=
  if month = 2 then
    if year % 4 = 0 ∧ (year % 100 ≠ 0 ∨ year % 400 = 0) then 29 else 28
  else if month = 4 ∨ month = 6 ∨ month = 9 ∨ month = 11 then 30
  else 31

def fixed? (count : Nat) (cs : List Char) : Option (Nat × List Char) :=
  let digits := cs.take count
  if digits.length = count ∧ digits.all Char.isDigit then
    some (Binary64.natOfDigits digits, cs.drop count)
  else none

def cutDate? (cs : List Char) : Option (List Char) :=
  match fixed? 4 cs with
  | some (year, '-' :: rest) => match fixed? 2 rest with
    | some (month, '-' :: rest) => match fixed? 2 rest with
      | some (day, rest) =>
        if 1 ≤ month ∧ month ≤ 12 ∧ 1 ≤ day ∧ day ≤ daysIn year month then some rest else none
      | none => none
    | _ => none
  | _ => none

def cutSecondFraction? : List Char → Option (List Char)
  | '.' :: rest =>
    if rest.takeWhile Char.isDigit = [] then none else some (rest.dropWhile Char.isDigit)
  | cs => some cs

def cutSeconds? : List Char → Option (List Char)
  | ':' :: rest => match fixed? 2 rest with
    | some (second, rest) => if second ≤ 60 then cutSecondFraction? rest else none
    | none => none
  | cs => some cs

def cutMinutes? (cs : List Char) : Option (List Char) :=
  match fixed? 2 cs with
  | some (hour, ':' :: rest) => match fixed? 2 rest with
    | some (minute, rest) => if hour ≤ 23 ∧ minute ≤ 59 then some rest else none
    | none => none
  | _ => none

def cutTime? (cs : List Char) : Option (List Char) := (cutMinutes? cs).bind cutSeconds?

def isOffset : List Char → Bool
  | [] => true
  | ['Z'] => true
  | ['z'] => true
  | c :: rest => (c == '+' || c == '-') && cutMinutes? rest == some []

def isTimeMark (c : Char) : Bool := c == 'T' || c == 't' || c == ' '

def isMoment (cs : List Char) : Bool :=
  match cutDate? cs with
  | some [] => true
  | some (c :: rest) => isTimeMark c && (cutTime? rest).any isOffset
  | none => cutTime? cs == some []

/-- Dates and times are maps that no record looks into. -/
def moment? (cs : List Char) : Option Tree :=
  if isMoment cs then some (.map [(.text "datetime", .text (String.ofList cs))]) else none

def boolean? (cs : List Char) : Option Tree :=
  if cs = ['t', 'r', 'u', 'e'] then some (.bool true)
  else if cs = ['f', 'a', 'l', 's', 'e'] then some (.bool false)
  else none

def scalarOf? (cs : List Char) : Option Tree :=
  (boolean? cs).or ((integer? cs).or ((float? cs).or (moment? cs)))

def isScalarChar (c : Char) : Bool :=
  c.isAlphanum || c == '_' || c == '+' || c == '-' || c == '.' || c == ':'

def cutScalar (cs : List Char) : List Char × List Char :=
  let first := cs.takeWhile isScalarChar
  match cs.dropWhile isScalarChar with
  | ' ' :: d :: rest =>
    if d.isDigit && cutDate? first == some [] then
      (first ++ ' ' :: (d :: rest).takeWhile isScalarChar, (d :: rest).dropWhile isScalarChar)
    else (first, ' ' :: d :: rest)
  | rest => (first, rest)

def readScalar? (cs : List Char) : Option (Tree × List Char) :=
  (scalarOf? (cutScalar cs).1).map fun tree => (tree, (cutScalar cs).2)

end FederationConfig.Toml
