import FederationConfig.Duration.Basic

/-!
The canonical text of a duration: one unit below a second, and hours, minutes and seconds from
there on. Fractions keep their digits up to the last one that is not zero.
-/

namespace FederationConfig.Duration

def fractionDigits (width part : Nat) : List Char :=
  let digits := Nat.toDigits 10 part
  let padded := List.replicate (width - digits.length) '0' ++ digits
  (padded.reverse.dropWhile (· == '0')).reverse

/-- `value / 10 ^ width` in decimal. -/
def renderScaled (value width : Nat) : List Char :=
  let whole := Nat.toDigits 10 (value / 10 ^ width)
  let part := value % 10 ^ width
  if part = 0 then whole else whole ++ '.' :: fractionDigits width part

def renderBelowSecond (magnitude : Nat) : List Char :=
  if magnitude < 10 ^ 3 then renderScaled magnitude 0 ++ ['n', 's']
  else if magnitude < 10 ^ 6 then renderScaled magnitude 3 ++ ['\u00b5', 's']
  else renderScaled magnitude 6 ++ ['m', 's']

def renderFromSecond (magnitude : Nat) : List Char :=
  let hours := magnitude / TimeUnit.hour.nanoseconds
  let minutes := magnitude % TimeUnit.hour.nanoseconds / TimeUnit.minute.nanoseconds
  let rest := magnitude % TimeUnit.minute.nanoseconds
  (if 0 < hours then Nat.toDigits 10 hours ++ ['h'] else []) ++
    (if 0 < hours ∨ 0 < minutes then Nat.toDigits 10 minutes ++ ['m'] else []) ++
    renderScaled rest 9 ++ ['s']

def renderMagnitude (magnitude : Nat) : List Char :=
  if magnitude = 0 then ['0', 's']
  else if magnitude < TimeUnit.second.nanoseconds then renderBelowSecond magnitude
  else renderFromSecond magnitude

def render (duration : Duration) : String :=
  String.ofList
    ((if duration.nanoseconds < 0 then ['-'] else []) ++
      renderMagnitude duration.nanoseconds.natAbs)

end FederationConfig.Duration
