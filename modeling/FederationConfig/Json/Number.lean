import FederationConfig.Json.Basic
import FederationConfig.Number.Reading

/-!
Numbers of a JSON text. A number without fraction and exponent is an integer as long as it fits
64 bits. All others are binary64 numbers: the leading digits that fit 64 bits, rounded, and then
scaled by powers of ten that are rounded as well.
-/

namespace FederationConfig.Json

/-- The parts of a number as it is written; an absent exponent has no digits. -/
structure NumberText where
  negative : Bool
  whole : List Char
  fraction : List Char
  negativeExponent : Bool
  exponent : List Char
  deriving Repr

namespace NumberText

def cutSign : List Char → Bool × List Char
  | '-' :: rest => (true, rest)
  | cs => (false, cs)

def cutExponentSign : List Char → Bool × List Char
  | '-' :: rest => (true, rest)
  | '+' :: rest => (false, rest)
  | cs => (false, cs)

def cutFraction? : List Char → Option (List Char × List Char)
  | '.' :: rest =>
    if rest.takeWhile Char.isDigit = [] then none
    else some (rest.takeWhile Char.isDigit, rest.dropWhile Char.isDigit)
  | cs => some ([], cs)

def exponent? : List Char → Option (Bool × List Char)
  | [] => some (false, [])
  | c :: rest =>
    let (negative, digits) := cutExponentSign rest
    if (c = 'e' ∨ c = 'E') ∧ digits ≠ [] ∧ digits.all Char.isDigit then some (negative, digits)
    else none

def isWhole : List Char → Bool
  | [] => false
  | ['0'] => true
  | c :: _ => c != '0'

def ofChars? (cs : List Char) : Option NumberText :=
  let (negative, magnitude) := cutSign cs
  let whole := magnitude.takeWhile Char.isDigit
  if isWhole whole then
    match cutFraction? (magnitude.dropWhile Char.isDigit) with
    | none => none
    | some (fraction, rest) =>
      (exponent? rest).map fun (negativeExponent, exponent) =>
        ⟨negative, whole, fraction, negativeExponent, exponent⟩
  else none

end NumberText

/-- Appends digits to a significand as long as it fits 64 bits; gives the digits left over. -/
def fillSignificand : Nat → List Char → Nat × List Char
  | significand, [] => (significand, [])
  | significand, digit :: rest =>
    let filled := 10 * significand + (digit.toNat - '0'.toNat)
    if filled < 2 ^ 64 then fillSignificand filled rest else (significand, digit :: rest)

/-- The greatest power of ten that is a binary64 number is `10 ^ 308`. -/
def greatestPowerOfTen : Nat := 308

def powerOfTen (power : Nat) : Binary64 := .ofRatio false (10 ^ power) 1

def scaleDown (x : Binary64) (places : Nat) : Binary64 :=
  if places ≤ greatestPowerOfTen then x.divide (powerOfTen places)
  else if x.isZero then x
  else scaleDown (x.divide (powerOfTen greatestPowerOfTen)) (places - greatestPowerOfTen)
termination_by places
decreasing_by simp only [greatestPowerOfTen] at *; omega

def scaleUp? (x : Binary64) (places : Nat) : Option Binary64 :=
  if places ≤ greatestPowerOfTen then
    let scaled := x.multiply (powerOfTen places)
    if scaled.isFinite then some scaled else none
  else if x.isZero then some x
  else none

def float? (negative : Bool) (significand : Nat) (exponent : Int) : Option Binary64 :=
  let x := Binary64.ofRatio false significand 1
  let magnitude := if 0 ≤ exponent then scaleUp? x exponent.toNat
    else some (scaleDown x (-exponent).toNat)
  magnitude.map fun x => if negative then x.negate else x

def NumberText.isInteger (number : NumberText) : Bool :=
  number.fraction.isEmpty && number.exponent.isEmpty

/-- Integers have no negative zero and are not below `-2 ^ 63`. -/
def ofWhole (negative : Bool) (magnitude : Nat) : Json :=
  if negative then
    if magnitude = 0 ∨ 2 ^ 63 < magnitude then .float (Binary64.ofRatio true magnitude 1)
    else .integer (-(magnitude : Int))
  else .integer magnitude

def NumberText.value? (number : NumberText) : Option Json :=
  let (whole, wholeRest) := fillSignificand 0 number.whole
  let (significand, fractionRest) := fillSignificand whole number.fraction
  if number.isInteger ∧ wholeRest = [] then some (ofWhole number.negative whole)
  else
    let scale : Int := wholeRest.length - (number.fraction.length - fractionRest.length : Nat)
    let power : Int := Binary64.exponentOfDigits number.exponent
    let exponent := if number.negativeExponent then scale - power else scale + power
    (float? number.negative significand exponent).map Json.float

def ofNumber? (cs : List Char) : Option Json := (NumberText.ofChars? cs).bind NumberText.value?

end FederationConfig.Json
