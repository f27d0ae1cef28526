import FederationConfig.Number.Binary64

namespace FederationConfig.Binary64

/-- The number nearest to `± digits · 10 ^ exponent`. Powers of ten that can only give an
infinity or a zero are not computed. -/
def ofDecimal (negative : Bool) (digits : Nat) (exponent : Int) : Binary64 :=
  if digits = 0 then zero negative
  else if 400 < exponent then .infinite negative
  else if exponent < -(400 + (digits.log2 : Int)) then zero negative
  else ofRatio negative (digits * 10 ^ exponent.toNat) (10 ^ (-exponent).toNat)

def natOfDigits (digits : List Char) : Nat := Nat.ofDigitChars 10 digits 0

/-- A decimal exponent; one of more than eighteen digits is cut short, which leaves it far
outside the range of every number. -/
def exponentOfDigits (digits : List Char) : Nat :=
  natOfDigits ((digits.dropWhile (· == '0')).take 18)

def exponentPart? : List Char → Option Int
  | [] => some 0
  | c :: rest =>
    if c = 'e' ∨ c = 'E' then
      let (negative, digits) := match rest with
        | '-' :: tail => (true, tail)
        | '+' :: tail => (false, tail)
        | _ => (false, rest)
      if digits.isEmpty || !digits.all Char.isDigit then none
      else
        let magnitude : Int := exponentOfDigits digits
        some (if negative then -magnitude else magnitude)
    else none

def ofMagnitude? (negative : Bool) (cs : List Char) : Option Binary64 :=
  let whole := cs.takeWhile Char.isDigit
  let (fraction, rest) := match cs.dropWhile Char.isDigit with
    | '.' :: tail => (tail.takeWhile Char.isDigit, tail.dropWhile Char.isDigit)
    | rest => ([], rest)
  if whole.isEmpty && fraction.isEmpty then none
  else (exponentPart? rest).map fun exponent =>
    ofDecimal negative (natOfDigits (whole ++ fraction)) (exponent - fraction.length)

def ofText? (text : String) : Option Binary64 :=
  let (negative, magnitude) := match text.toList with
    | '-' :: rest => (true, rest)
    | '+' :: rest => (false, rest)
    | cs => (false, cs)
  let name := String.ofList (magnitude.map Char.toLower)
  if name = "inf" ∨ name = "infinity" then some (.infinite negative)
  else if name = "nan" then some .nan
  else ofMagnitude? negative magnitude

end FederationConfig.Binary64
