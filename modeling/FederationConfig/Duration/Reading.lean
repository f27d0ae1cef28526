import FederationConfig.Duration.Basic

/-!
Durations in text: an optional sign, then `0` or segments such as `1.5h` and `300ms`. A duration
that is read fits 64 signed bits of nanoseconds.
-/

namespace FederationConfig.Duration

inductive Fault where
  | invalid
  | missingUnit
  | unknownUnit (name : List Char)
  | overflow
  deriving DecidableEq, Repr

structure ReadError where
  fault : Fault
  text : String
  deriving DecidableEq, Repr

def ReadError.message (error : ReadError) : String :=
  match error.fault with
  | .invalid => "invalid duration \"" ++ error.text ++ "\""
  | .missingUnit => "missing unit in duration \"" ++ error.text ++ "\""
  | .unknownUnit name =>
    "unknown unit \"" ++ String.ofList name ++ "\" in duration \"" ++ error.text ++ "\""
  | .overflow => "duration \"" ++ error.text ++ "\" out of range"

structure Segment where
  whole : List Char
  fraction : List Char
  unit : List Char
  deriving DecidableEq, Repr

def isUnitChar (c : Char) : Bool := c != '.' && !c.isDigit

def cutFraction : List Char → List Char × List Char
  | '.' :: rest => (rest.takeWhile Char.isDigit, rest.dropWhile Char.isDigit)
  | cs => ([], cs)

def Segment.cut (cs : List Char) : Segment × List Char :=
  let (fraction, rest) := cutFraction (cs.dropWhile Char.isDigit)
  (⟨cs.takeWhile Char.isDigit, fraction, rest.takeWhile isUnitChar⟩, rest.dropWhile isUnitChar)

def digitsValue (digits : List Char) : Nat := Nat.ofDigitChars 10 digits 0

/-- Digits of a fraction past the eighteenth are not looked at. -/
def fractionPlaces : Nat := 18

/-- A decimal fraction of a unit, cut down to whole nanoseconds. -/
def fractionNanoseconds (digits : List Char) (unit : TimeUnit) : Nat :=
  let kept := digits.take fractionPlaces
  digitsValue kept * unit.nanoseconds / 10 ^ kept.length

def Segment.nanoseconds (segment : Segment) (unit : TimeUnit) : Nat :=
  digitsValue segment.whole * unit.nanoseconds + fractionNanoseconds segment.fraction unit

def Segment.amount (segment : Segment) : Except Fault Nat :=
  if segment.whole = [] ∧ segment.fraction = [] then .error .invalid
  else if segment.unit = [] then .error .missingUnit
  else match TimeUnit.ofName? segment.unit with
    | none => .error (.unknownUnit segment.unit)
    | some unit => .ok (segment.nanoseconds unit)

def greatestMagnitude : Nat := 2 ^ 63

theorem length_dropWhile_le (p : Char → Bool) (cs : List Char) :
    (cs.dropWhile p).length ≤ cs.length := (List.dropWhile_sublist p).length_le

theorem length_cutFraction_le (cs : List Char) : (cutFraction cs).2.length ≤ cs.length := by
  unfold cutFraction
  split
  · exact Nat.le_succ_of_le (length_dropWhile_le _ _)
  · exact Nat.le_refl _

theorem length_dropWhile_lt (p : Char → Bool) (cs : List Char) (found : cs.takeWhile p ≠ []) :
    (cs.dropWhile p).length < cs.length := by
  have parts : (cs.takeWhile p).length + (cs.dropWhile p).length = cs.length := by
    rw [← List.length_append, List.takeWhile_append_dropWhile]
  have := List.length_pos_iff.mpr found
  omega

theorem Segment.length_cut_lt (cs : List Char) (found : (Segment.cut cs).1.unit ≠ []) :
    (Segment.cut cs).2.length < cs.length :=
  Nat.lt_of_lt_of_le (length_dropWhile_lt _ _ found)
    (Nat.le_trans (length_cutFraction_le _) (length_dropWhile_le _ _))

theorem Segment.unit_ne_nil_of_amount {segment : Segment} {amount : Nat}
    (known : segment.amount = .ok amount) : segment.unit ≠ [] := by
  intro empty
  simp only [Segment.amount, empty] at known
  split at known <;> simp at known

def sumSegments (cs : List Char) (total : Nat) : Except Fault Nat :=
  if cs = [] then .ok total
  else match _known : (Segment.cut cs).1.amount with
    | .error fault => .error fault
    | .ok nanoseconds =>
      if greatestMagnitude < total + nanoseconds then .error .overflow
      else sumSegments (Segment.cut cs).2 (total + nanoseconds)
termination_by cs.length
decreasing_by exact Segment.length_cut_lt cs (Segment.unit_ne_nil_of_amount _known)

def cutSign : List Char → Bool × List Char
  | '-' :: rest => (true, rest)
  | '+' :: rest => (false, rest)
  | cs => (false, cs)

def readBody (negative : Bool) (body : List Char) : Except Fault Duration :=
  if body = ['0'] then .ok zero
  else if body = [] then .error .invalid
  else match sumSegments body 0 with
    | .error fault => .error fault
    | .ok total =>
      if negative then .ok ⟨-(total : Int)⟩
      else if total = greatestMagnitude then .error .overflow
      else .ok ⟨total⟩

def read (text : String) : Except ReadError Duration :=
  let (negative, body) := cutSign text.toList
  (readBody negative body).mapError (⟨·, text⟩)

end FederationConfig.Duration
