import FederationConfig.Number.Shortest

namespace FederationConfig

/-- Numbers whose leading digit counts `10 ^ p` are written without an exponent for `p` within
the bounds; an absent bound admits all. Whole numbers may carry a closing `.0`. -/
structure NumberLayout where
  leastPlain : Option Int
  greatestPlain : Option Int
  wholePoint : Bool

namespace NumberLayout

def plain : NumberLayout := ⟨none, none, false⟩

def pointed : NumberLayout := ⟨none, none, true⟩

def scientific : NumberLayout := ⟨some (-5), some 15, true⟩

def isPlain (layout : NumberLayout) (power : Int) : Bool :=
  layout.leastPlain.all (· ≤ power) && layout.greatestPlain.all (power ≤ ·)

def positional (layout : NumberLayout) (digits : List Char) (exponent : Int) : List Char :=
  if 0 ≤ exponent then
    digits ++ List.replicate exponent.toNat '0' ++ (if layout.wholePoint then ['.', '0'] else [])
  else
    let places := (-exponent).toNat
    if places < digits.length then
      digits.take (digits.length - places) ++ ['.'] ++ digits.drop (digits.length - places)
    else ['0', '.'] ++ List.replicate (places - digits.length) '0' ++ digits

def withExponent (digits : List Char) (power : Int) : List Char :=
  let mantissa := match digits with
    | [] => []
    | [digit] => [digit]
    | digit :: rest => digit :: '.' :: rest
  mantissa ++ ['e', if power < 0 then '-' else '+'] ++ Nat.toDigits 10 power.natAbs

def magnitude (layout : NumberLayout) (decimal : Decimal) : List Char :=
  let digits := Nat.toDigits 10 decimal.digits
  let power : Int := decimal.exponent + digits.length - 1
  if layout.isPlain power then layout.positional digits decimal.exponent
  else withExponent digits power

end NumberLayout

def Binary64.render (layout : NumberLayout) : Binary64 → String
  | .nan => "NaN"
  | .infinite negative => if negative then "-inf" else "inf"
  | .finite negative significand exponent =>
    String.ofList ((if negative then ['-'] else []) ++
      layout.magnitude (Binary64.shortest significand exponent))

end FederationConfig
