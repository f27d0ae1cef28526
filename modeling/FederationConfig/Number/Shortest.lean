import FederationConfig.Number.Binary64

/-!
The shortest decimal of a binary64 number: among the decimals that read back as the number, one
with the fewest digits, and of those the nearest.
-/

namespace FederationConfig

structure Decimal where
  digits : Nat
  exponent : Int
  deriving DecidableEq, Repr

/-- The decimals between `low` and `high` read back as the number `value`, all three counted
in one unit, `numerator / denominator`. -/
structure ReadingInterval where
  low : Nat
  value : Nat
  high : Nat
  closed : Bool
  numerator : Nat
  denominator : Nat

namespace ReadingInterval

/-- Neighbours are half a step away; below a power of two the lower one is a quarter away. -/
def ofFinite (significand : Nat) (exponent : Int) : ReadingInterval :=
  let narrow := significand = 2 ^ 52 ∧ Binary64.leastExponent < exponent
  { low := 4 * significand - (if narrow then 1 else 2)
    value := 4 * significand
    high := 4 * significand + 2
    closed := significand % 2 == 0
    numerator := 2 ^ (exponent - 2).toNat
    denominator := 2 ^ (2 - exponent).toNat }

def holds (interval : ReadingInterval) (scaled scale : Nat) : Bool :=
  if interval.closed then interval.low * scale ≤ scaled && scaled ≤ interval.high * scale
  else interval.low * scale < scaled && scaled < interval.high * scale

/-- The better of the two neighbours of the value on the grid `10 ^ exponent`, if one is in the
interval. -/
def onGrid? (interval : ReadingInterval) (exponent : Int) : Option Decimal :=
  let scale := interval.numerator * 10 ^ (-exponent).toNat
  let step := interval.denominator * 10 ^ exponent.toNat
  let below := interval.value * scale / step
  let gapBelow := interval.value * scale - below * step
  let gapAbove := (below + 1) * step - interval.value * scale
  let lower := interval.holds (below * step) scale
  let upper := interval.holds ((below + 1) * step) scale
  if lower && upper then
    if gapBelow < gapAbove ∨ (gapBelow = gapAbove ∧ below % 2 = 0) then some ⟨below, exponent⟩
    else some ⟨below + 1, exponent⟩
  else if lower then some ⟨below, exponent⟩
  else if upper then some ⟨below + 1, exponent⟩
  else none

end ReadingInterval

namespace Binary64

/-- Tries the grids of powers of ten from above the number down to one on which seventeen
digits are in front of the point. -/
def shortest (significand : Nat) (exponent : Int) : Decimal :=
  if significand = 0 then ⟨0, 0⟩
  else
    let interval := ReadingInterval.ofFinite significand exponent
    let magnitude : Int := (significand.log2 + exponent) * 1233 / 4096
    let grids := (List.range 24).map fun (step : Nat) => magnitude + 2 - (step : Int)
    (grids.findSome? interval.onGrid?).getD ⟨0, 0⟩

end Binary64

end FederationConfig
