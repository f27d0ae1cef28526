/-!
Binary64 numbers as exact values: a finite one is `± significand · 2 ^ exponent` with a
significand below `2 ^ 53` and an exponent between `-1074` and `971`. Arithmetic computes the
exact result and rounds it once, to the nearest number and from a tie to the even significand.
-/

-- Powers are the ones of the core library, whatever else a module imports.
attribute [instance (high), default_instance (high + 1)] instPowNat

namespace FederationConfig

inductive Binary64 where
  | nan
  | infinite (negative : Bool)
  | finite (negative : Bool) (significand : Nat) (exponent : Int)
  deriving DecidableEq, Repr

namespace Binary64

def leastExponent : Int := -1074

def greatestExponent : Int := 971

def zero (negative : Bool) : Binary64 := .finite negative 0 leastExponent

/-- The quotient to the nearest integer; half a unit goes to the even neighbour. -/
def divideHalfEven (numerator denominator : Nat) : Nat :=
  let quotient := numerator / denominator
  let twice := 2 * (numerator % denominator)
  if denominator < twice ∨ (twice = denominator ∧ quotient % 2 = 1) then quotient + 1 else quotient

/-- The greatest `t` with `2 ^ t ≤ numerator / denominator`, both being positive. -/
def ratioLog2 (numerator denominator : Nat) : Int :=
  let guess : Int := numerator.log2 - denominator.log2
  if denominator * 2 ^ guess.toNat ≤ numerator * 2 ^ (-guess).toNat then guess else guess - 1

/-- Spacing of the numbers around a positive ratio, as a power of two. -/
def gridExponent (numerator denominator : Nat) : Int :=
  max leastExponent (ratioLog2 numerator denominator - 52)

/-- A significand of 53 bits, or one unit above them, placed on the grid `2 ^ exponent`. -/
def place (negative : Bool) (significand : Nat) (exponent : Int) : Binary64 :=
  let (significand, exponent) :=
    if significand = 2 ^ 53 then (2 ^ 52, exponent + 1) else (significand, exponent)
  if greatestExponent < exponent then .infinite negative
  else .finite negative significand exponent

/-- The number nearest to `± numerator / denominator`, for a positive denominator. -/
def ofRatio (negative : Bool) (numerator denominator : Nat) : Binary64 :=
  if numerator = 0 then zero negative
  else
    let exponent := gridExponent numerator denominator
    place negative
      (divideHalfEven (numerator * 2 ^ (-exponent).toNat) (denominator * 2 ^ exponent.toNat))
      exponent

def ofInt (n : Int) : Binary64 := ofRatio (decide (n < 0)) n.natAbs 1

def isFinite : Binary64 → Bool
  | .finite .. => true
  | _ => false

def isZero : Binary64 → Bool
  | .finite _ 0 _ => true
  | _ => false

def isNegative : Binary64 → Bool
  | .nan => false
  | .infinite negative => negative
  | .finite negative .. => negative

def negate : Binary64 → Binary64
  | .nan => .nan
  | .infinite negative => .infinite (!negative)
  | .finite negative significand exponent => .finite (!negative) significand exponent

def multiply : Binary64 → Binary64 → Binary64
  | .finite n₁ s₁ e₁, .finite n₂ s₂ e₂ =>
    let exponent := e₁ + e₂
    ofRatio (n₁ != n₂) (s₁ * s₂ * 2 ^ exponent.toNat) (2 ^ (-exponent).toNat)
  | .nan, _ => .nan
  | _, .nan => .nan
  | x, y => if x.isZero || y.isZero then .nan else .infinite (x.isNegative != y.isNegative)

def divide : Binary64 → Binary64 → Binary64
  | .finite n₁ s₁ e₁, .finite n₂ s₂ e₂ =>
    let negative := n₁ != n₂
    if s₂ = 0 then if s₁ = 0 then .nan else .infinite negative
    else
      let exponent := e₁ - e₂
      ofRatio negative (s₁ * 2 ^ exponent.toNat) (s₂ * 2 ^ (-exponent).toNat)
  | .nan, _ => .nan
  | _, .nan => .nan
  | .infinite _, .infinite _ => .nan
  | .infinite n₁, .finite n₂ .. => .infinite (n₁ != n₂)
  | .finite n₁ .., .infinite n₂ => zero (n₁ != n₂)

def truncate : Binary64 → Binary64
  | .finite negative significand exponent =>
    if 0 ≤ exponent then .finite negative significand exponent
    else ofRatio negative (significand / 2 ^ (-exponent).toNat) 1
  | x => x

/-- A finite number counted in units of `2 ^ -1074`. -/
def units (negative : Bool) (significand : Nat) (exponent : Int) : Int :=
  let magnitude : Int := significand * 2 ^ (exponent - leastExponent).toNat
  if negative then -magnitude else magnitude

def less : Binary64 → Binary64 → Bool
  | .nan, _ => false
  | _, .nan => false
  | .infinite n₁, .infinite n₂ => n₁ && !n₂
  | .infinite negative, .finite .. => negative
  | .finite .., .infinite negative => !negative
  | .finite n₁ s₁ e₁, .finite n₂ s₂ e₂ => units n₁ s₁ e₁ < units n₂ s₂ e₂

/-- Numeric equality, except that all numbers that are no number are one. -/
def same : Binary64 → Binary64 → Bool
  | .nan, .nan => true
  | .infinite n₁, .infinite n₂ => n₁ == n₂
  | .finite n₁ s₁ e₁, .finite n₂ s₂ e₂ => units n₁ s₁ e₁ == units n₂ s₂ e₂
  | _, _ => false

end Binary64

end FederationConfig
