import FederationConfig.Proofs.Duration.Word
import FederationConfig.Proofs.Text.Octets

/-!
Durations read by a machine that counts octets. A cut inside a character, a subtraction below zero,
an unchecked operation that leaves its word and a loop without an end are traps. No text leads into
one of them, and what the machine reads is the duration of the text or the fault of it.
-/

namespace FederationConfig.Duration

open Text (octets run cutAt?)

inductive Trap where
  | noBoundary
  | underflow
  | overflow
  | divisionByZero
  | endless
  deriving DecidableEq, Repr

/-- A reading stops at a fault of the text, as it should, or at a trap. -/
inductive Stop where
  | fault (fault : Fault)
  | trap (trap : Trap)
  deriving DecidableEq, Repr

abbrev Attempt := Except Stop

namespace Machine

def orStop {α : Type} (stop : Stop) : Option α → Attempt α
  | some value => .ok value
  | none => .error stop

/-- A word that does not fit is a fault where operations are checked, and a trap elsewhere. -/
def checked (word : Option Word) : Attempt Word := orStop (.fault .overflow) word

def unchecked (word : Option Word) : Attempt Word := orStop (.trap .overflow) word

def cutAt (text : String) (offset : Nat) : Attempt (String × String) :=
  orStop (.trap .noBoundary) (cutAt? text offset)

def isDigitOctet (octet : UInt8) : Bool := 0x30 ≤ octet && octet ≤ 0x39

def isUnitOctet (octet : UInt8) : Bool := octet != 0x2e && !isDigitOctet octet

def digitOf (octet : UInt8) : Attempt Word :=
  if octet < 0x30 then .error (.trap .underflow)
  else .ok ((octet - 0x30).toBitVec.setWidth 128)

def divide (a b : Word) : Attempt Word :=
  if b = 0 then .error (.trap .divisionByZero) else .ok (a / b)

def nextDigit (value : Word) (octet : UInt8) : Attempt Word := do
  let shifted ← checked (value.mul? 10)
  let digit ← digitOf octet
  checked (shifted.add? digit)

def digitsWord (digits : String) : Attempt Word := (octets digits).foldlM nextDigit 0

def nextPlace (parts : Word × Word) (octet : UInt8) : Attempt (Word × Word) := do
  let shifted ← unchecked (parts.1.mul? 10)
  let digit ← digitOf octet
  let numerator ← unchecked (shifted.add? digit)
  let denominator ← unchecked (parts.2.mul? 10)
  return (numerator, denominator)

def fractionWord (digits : String) (unit : TimeUnit) : Attempt Word := do
  let parts ← ((octets digits).take fractionPlaces).foldlM nextPlace (0, 1)
  let product ← unchecked (parts.1.mul? (.ofUnit unit))
  divide product parts.2

def amount (whole fraction : String) (unit : TimeUnit) : Attempt Word := do
  let count ← digitsWord whole
  let units ← checked (count.mul? (.ofUnit unit))
  let part ← fractionWord fraction unit
  checked (units.add? part)

structure State where
  rest : String
  total : Word
  deriving DecidableEq, Repr

def cutFraction (text : String) : Attempt (String × String) :=
  match text.toList with
  | '.' :: tail => cutAt (.ofList tail) (run isDigitOctet (.ofList tail))
  | _ => .ok ("", text)

def advance (total : Word) (tail : String) (amount : Word) : Attempt State := do
  let sum ← checked (total.add? amount)
  if BitVec.ofNat 128 greatestMagnitude < sum then .error (.fault .overflow)
  else .ok ⟨tail, sum⟩

def finish (total : Word) (whole fraction behind : String) : Attempt State :=
  if whole = "" ∧ fraction = "" then .error (.fault .invalid)
  else if run isUnitOctet behind = 0 then .error (.fault .missingUnit)
  else do
    let (name, tail) ← cutAt behind (run isUnitOctet behind)
    let unit ← orStop (.fault (.unknownUnit name.toList)) (TimeUnit.ofName? name.toList)
    let amount ← amount whole fraction unit
    advance total tail amount

/-- One turn of the loop reads one segment. -/
def turn (state : State) : Attempt State := do
  let (whole, behind) ← cutAt state.rest (run isDigitOctet state.rest)
  let (fraction, behind) ← cutFraction behind
  finish state.total whole fraction behind

def loop : Nat → State → Attempt Word
  | 0, _ => .error (.trap .endless)
  | turns + 1, state =>
    if state.rest = "" then .ok state.total
    else do
      let next ← turn state
      loop turns next

def negate (word : Word) : Attempt Word :=
  if word.negOverflow then .error (.trap .overflow) else .ok (-word)

def signed (negative : Bool) (total : Word) : Attempt Duration :=
  if total.msb then .error (.fault .overflow)
  else do
    let value ← if negative then negate total else .ok total
    if Fits ⟨value.toInt⟩ then .ok ⟨value.toInt⟩ else .error (.fault .overflow)

def cutSign (text : String) : Attempt (Bool × String) :=
  if (octets text).head? = some 0x2d then do
    let (_, body) ← cutAt text 1
    return (true, body)
  else if (octets text).head? = some 0x2b then do
    let (_, body) ← cutAt text 1
    return (false, body)
  else return (false, text)

def readBody (turns : Nat) (negative : Bool) (body : String) : Attempt Duration :=
  if body = "0" then .ok zero
  else if body = "" then .error (.fault .invalid)
  else do
    let total ← loop turns ⟨body, 0⟩
    signed negative total

def read (turns : Nat) (text : String) : Attempt Duration := do
  let (negative, body) ← cutSign text
  readBody turns negative body

end Machine

/-- What comes out of the machine: an answer for the text, or the trap it got into. -/
def readInOctets (turns : Nat) (text : String) : Except Trap (Except ReadError Duration) :=
  match Machine.read turns text with
  | .ok duration => .ok (.ok duration)
  | .error (.fault fault) => .ok (.error ⟨fault, text⟩)
  | .error (.trap trap) => .error trap

namespace Machine

theorem ok_bind {α β : Type} (value : α) (next : α → Attempt β) :
    ((.ok value : Attempt α) >>= next) = next value :=
  rfl

theorem checked_some (word : Word) : checked (some word) = .ok word := rfl

def octetOf (c : Char) : UInt8 := UInt8.ofNat c.toNat

theorem octets_of_digits {digits : List Char} (all : ∀ c ∈ digits, c.isDigit) :
    octets (String.ofList digits) = digits.map octetOf := by
  apply Text.octets_of_ascii
  intro c member
  have bounds := Text.bounds_of_isDigit (all c member)
  omega

theorem digitOf_octetOf {c : Char} (digit : c.isDigit) :
    digitOf (octetOf c) = .ok (Word.ofDigit c) := by
  obtain ⟨low, high⟩ := Text.bounds_of_isDigit digit
  have above : ¬ octetOf c < 0x30 := by
    rw [UInt8.lt_iff_toNat_lt, octetOf, UInt8.toNat_ofNat', Nat.mod_eq_of_lt (by omega)]
    exact Nat.not_lt.mpr low
  rw [digitOf, if_neg above]
  rfl

theorem nextDigit_eq (value : Word) {c : Char} (digit : c.isDigit) :
    nextDigit value (octetOf c) = checked (nextDigit? value c) := by
  rw [nextDigit, nextDigit?, digitOf_octetOf digit]
  cases value.mul? 10 <;> rfl

theorem foldlM_nextDigit (digits : List Char) (value : Word) (all : ∀ c ∈ digits, c.isDigit) :
    (digits.map octetOf).foldlM nextDigit value = checked (digits.foldlM nextDigit? value) := by
  induction digits generalizing value with
  | nil => rfl
  | cons c rest ih =>
      obtain ⟨digit, later⟩ := List.forall_mem_cons.mp all
      rw [List.map_cons, List.foldlM_cons, List.foldlM_cons, nextDigit_eq value digit]
      cases nextDigit? value c with
      | none => rfl
      | some next => exact ih next later

theorem digitsWord_eq {digits : List Char} (all : ∀ c ∈ digits, c.isDigit) :
    digitsWord (.ofList digits) = checked (digitsWord? digits) := by
  rw [digitsWord, octets_of_digits all, foldlM_nextDigit digits 0 all]
  rfl

theorem toNat_ofNat {n : Nat} (fits : n < 2 ^ 128) : (BitVec.ofNat 128 n).toNat = n := by
  rw [BitVec.toNat_ofNat, Nat.mod_eq_of_lt fits]

theorem unchecked_fit? {n : Nat} (fits : n < 2 ^ 128) :
    unchecked (Word.fit? n) = .ok (.ofNat 128 n) := by
  rw [Word.fit?, if_pos fits]
  rfl

theorem unchecked_mul? {m n : Nat} (left : m < 2 ^ 128) (right : n < 2 ^ 128)
    (fits : m * n < 2 ^ 128) :
    unchecked (Word.mul? (.ofNat 128 m) (.ofNat 128 n)) = .ok (.ofNat 128 (m * n)) := by
  rw [Word.mul?_eq, toNat_ofNat left, toNat_ofNat right, unchecked_fit? fits]

theorem unchecked_add? {m n : Nat} (left : m < 2 ^ 128) (right : n < 2 ^ 128)
    (fits : m + n < 2 ^ 128) :
    unchecked (Word.add? (.ofNat 128 m) (.ofNat 128 n)) = .ok (.ofNat 128 (m + n)) := by
  rw [Word.add?_eq, toNat_ofNat left, toNat_ofNat right, unchecked_fit? fits]

theorem nextPlace_eq {numerator denominator : Nat} (below : numerator < denominator)
    (few : denominator * 10 ≤ 10 ^ 18) {c : Char} (digit : c.isDigit) :
    nextPlace (.ofNat 128 numerator, .ofNat 128 denominator) (octetOf c) =
      .ok (.ofNat 128 (10 * numerator + (c.toNat - '0'.toNat)),
        .ofNat 128 (denominator * 10)) := by
  -- Numerator and denominator are both far from the end of a word.
  have bounds := Text.bounds_of_isDigit digit
  have zero : '0'.toNat = 48 := rfl
  have shifted : unchecked (Word.mul? (.ofNat 128 numerator) 10) =
      .ok (.ofNat 128 (numerator * 10)) :=
    unchecked_mul? (n := 10) (by omega) (by omega) (by omega)
  have added : unchecked (Word.add? (.ofNat 128 (numerator * 10))
      (.ofNat 128 (c.toNat - '0'.toNat))) =
        .ok (.ofNat 128 (numerator * 10 + (c.toNat - '0'.toNat))) :=
    unchecked_add? (by omega) (by omega) (by omega)
  have denominators : unchecked (Word.mul? (.ofNat 128 denominator) 10) =
      .ok (.ofNat 128 (denominator * 10)) :=
    unchecked_mul? (n := 10) (by omega) (by omega) (by omega)
  rw [Nat.mul_comm 10]
  simp only [nextPlace, shifted, ok_bind, digitOf_octetOf digit, Word.ofDigit_eq digit, added,
    denominators]
  rfl

theorem foldlM_nextPlace (digits : List Char) {numerator denominator : Nat}
    (all : ∀ c ∈ digits, c.isDigit) (below : numerator < denominator)
    (few : denominator * 10 ^ digits.length ≤ 10 ^ 18) :
    (digits.map octetOf).foldlM nextPlace (.ofNat 128 numerator, .ofNat 128 denominator) =
      (.ok (.ofNat 128 (Nat.ofDigitChars 10 digits numerator),
        .ofNat 128 (denominator * 10 ^ digits.length)) : Attempt (Word × Word)) := by
  -- Induction over the digits that are left; the denominator may still grow by their power of ten.
  induction digits generalizing numerator denominator with
  | nil => rw [List.length_nil, Nat.pow_zero, Nat.mul_one]; rfl
  | cons c rest ih =>
      obtain ⟨digit, later⟩ := List.forall_mem_cons.mp all
      have bounds := Text.bounds_of_isDigit digit
      have zero : '0'.toNat = 48 := rfl
      have positive : 0 < 10 ^ rest.length := Nat.pow_pos (by decide)
      rw [List.length_cons, Nat.pow_succ', ← Nat.mul_assoc] at few ⊢
      have step : denominator * 10 ≤ 10 ^ 18 :=
        Nat.le_trans (Nat.le_mul_of_pos_right _ positive) few
      rw [List.map_cons, List.foldlM_cons, nextPlace_eq below step digit,
        Nat.ofDigitChars_cons]
      exact ih later (by omega) few

theorem divide_eq {a b : Word} (nonzero : b ≠ 0) : divide a b = .ok (a / b) := if_neg nonzero

/-- No operation on a fraction is out of its range, whatever the digits and the unit. -/
theorem fractionWord_eq {digits : List Char} (all : ∀ c ∈ digits, c.isDigit) (unit : TimeUnit) :
    fractionWord (.ofList digits) unit = .ok (Duration.fractionWord digits unit) := by
  have kept : ∀ c ∈ digits.take fractionPlaces, c.isDigit :=
    fun c member => all c (List.mem_of_mem_take member)
  have short : (digits.take fractionPlaces).length ≤ fractionPlaces := List.length_take_le ..
  obtain ⟨product, places⟩ := fraction_fits kept short unit
  have few : 1 * 10 ^ (digits.take fractionPlaces).length ≤ 10 ^ 18 := by
    rw [Nat.one_mul]
    exact Nat.pow_le_pow_right (by decide) short
  have parts := foldlM_nextPlace (digits.take fractionPlaces) kept Nat.zero_lt_one few
  have plain := foldl_nextPlace (digits.take fractionPlaces) 0 1 kept
  rw [Nat.one_mul] at parts plain
  have scaled := unchecked_mul? (Nat.lt_trans (digitsValue_lt kept) places)
    (Nat.lt_of_le_of_lt (nanoseconds_le unit) (by decide)) product
  have nonzero : BitVec.ofNat 128 (10 ^ (digits.take fractionPlaces).length) ≠ 0 := by
    intro zero
    have value := congrArg BitVec.toNat zero
    rw [toNat_ofNat places] at value
    exact Nat.ne_of_gt (Nat.pow_pos (by decide)) value
  have start : ((0, 1) : Word × Word) = (.ofNat 128 0, .ofNat 128 1) := rfl
  rw [fractionWord, octets_of_digits all, ← List.map_take, start, parts, ok_bind]
  rw [Duration.fractionWord, start, plain]
  dsimp only
  rw [Word.ofUnit, ← digitsValue, scaled, ok_bind, divide_eq nonzero, BitVec.ofNat_mul]

theorem amount_eq (segment : Segment) (whole : ∀ c ∈ segment.whole, c.isDigit)
    (fraction : ∀ c ∈ segment.fraction, c.isDigit) (unit : TimeUnit) :
    amount (.ofList segment.whole) (.ofList segment.fraction) unit =
      checked (segment.nanosecondsWord? unit) := by
  rw [amount, Segment.nanosecondsWord?, digitsWord_eq whole, fractionWord_eq fraction]
  cases digitsWord? segment.whole with
  | none => rfl
  | some count =>
      rw [checked_some, ok_bind, Option.bind_some]
      cases count.mul? (.ofUnit unit) <;> rfl

theorem isDigitOctet_of_high {octet : UInt8} (high : 0x80 ≤ octet) :
    isDigitOctet octet = false := by
  have above : ¬ octet ≤ 0x39 := fun low => absurd (UInt8.le_trans high low) (by decide)
  rw [isDigitOctet, decide_eq_false above, Bool.and_false]

theorem isDigit_of_large {c : Char} (large : 0x80 ≤ c.toNat) : c.isDigit = false := by
  rw [Bool.eq_false_iff]
  intro digit
  have bounds := Text.bounds_of_isDigit digit
  omega

theorem tells_digits : Text.Tells isDigitOctet Char.isDigit := by
  have all : ∀ n < 0x80, isDigitOctet (UInt8.ofNat n) = (Char.ofNat n).isDigit := by decide
  refine Text.tells_of_ascii false ?_ (fun _ => isDigitOctet_of_high) fun _ => isDigit_of_large
  intro c ascii
  rw [all c.toNat ascii, Char.ofNat_toNat]

theorem tells_unitChars : Text.Tells isUnitOctet isUnitChar := by
  have all : ∀ n < 0x80, isUnitOctet (UInt8.ofNat n) = isUnitChar (Char.ofNat n) := by decide
  refine Text.tells_of_ascii true ?_ ?_ ?_
  · intro c ascii
    rw [all c.toNat ascii, Char.ofNat_toNat]
  · intro octet high
    have point : octet ≠ 0x2e := by
      rintro rfl
      exact absurd high (by decide)
    rw [isUnitOctet, isDigitOctet_of_high high, bne_iff_ne.mpr point]
    rfl
  · intro c large
    have point : c ≠ '.' := by
      rintro rfl
      exact absurd large (by decide)
    rw [isUnitChar, isDigit_of_large large, bne_iff_ne.mpr point]
    rfl

theorem cutAt_digits (cs : List Char) :
    cutAt (.ofList cs) (run isDigitOctet (.ofList cs)) =
      .ok (.ofList (cs.takeWhile Char.isDigit), .ofList (cs.dropWhile Char.isDigit)) := by
  rw [cutAt, tells_digits.cutAt?_run]
  rfl

theorem cutAt_unitChars (cs : List Char) :
    cutAt (.ofList cs) (run isUnitOctet (.ofList cs)) =
      .ok (.ofList (cs.takeWhile isUnitChar), .ofList (cs.dropWhile isUnitChar)) := by
  rw [cutAt, tells_unitChars.cutAt?_run]
  rfl

theorem run_unitChars_eq_zero_iff (cs : List Char) :
    run isUnitOctet (.ofList cs) = 0 ↔ cs.takeWhile isUnitChar = [] := by
  rw [tells_unitChars.run_ofList, String.utf8ByteSize_eq_zero_iff, String.ofList_eq_empty_iff]

theorem cutFraction_eq (cs : List Char) :
    cutFraction (.ofList cs) =
      .ok (.ofList (Duration.cutFraction cs).1, .ofList (Duration.cutFraction cs).2) := by
  cases cs with
  | nil => rfl
  | cons c rest =>
      by_cases point : c = '.'
      · subst point
        rw [cutFraction, String.toList_ofList]
        exact cutAt_digits rest
      · simp [cutFraction, Duration.cutFraction, point]

theorem finish_eq (total : Word) {whole fraction : List Char} (wholeDigits : ∀ c ∈ whole, c.isDigit)
    (fractionDigits : ∀ c ∈ fraction, c.isDigit) (behind : List Char) :
    finish total (.ofList whole) (.ofList fraction) (.ofList behind) =
      (Segment.amountWord ⟨whole, fraction, behind.takeWhile isUnitChar⟩).mapError .fault >>=
        advance total (.ofList (behind.dropWhile isUnitChar)) := by
  rw [finish, Segment.amountWord]
  simp only [String.ofList_eq_empty_iff, run_unitChars_eq_zero_iff]
  by_cases digits : whole = [] ∧ fraction = []
  · rw [if_pos digits, if_pos digits]
    rfl
  · rw [if_neg digits, if_neg digits]
    by_cases none : behind.takeWhile isUnitChar = []
    · rw [if_pos none, if_pos none]
      rfl
    · rw [if_neg none, if_neg none, cutAt_unitChars, ok_bind]
      dsimp only
      rw [String.toList_ofList]
      cases TimeUnit.ofName? (behind.takeWhile isUnitChar) with
      | none => rfl
      | some unit =>
          have amounts := amount_eq ⟨whole, fraction, behind.takeWhile isUnitChar⟩ wholeDigits
            fractionDigits unit
          dsimp only [orStop] at amounts ⊢
          rw [ok_bind, amounts]
          cases Segment.nanosecondsWord? ⟨whole, fraction, behind.takeWhile isUnitChar⟩ unit <;> rfl

theorem turn_eq (cs : List Char) (total : Word) :
    turn ⟨.ofList cs, total⟩ =
      (Segment.cut cs).1.amountWord.mapError .fault >>=
        advance total (.ofList (Segment.cut cs).2) := by
  obtain ⟨whole, fraction⟩ := Segment.isDigit_of_mem_cut cs
  rw [turn]
  dsimp only
  rw [cutAt_digits, ok_bind]
  dsimp only
  rw [cutFraction_eq, ok_bind]
  exact finish_eq total whole fraction _

theorem advance_ne_trap (total : Word) (tail : String) (amount : Word) (trap : Trap) :
    advance total tail amount ≠ .error (.trap trap) := by
  rw [advance]
  cases total.add? amount with
  | none => exact fun same => nomatch same
  | some sum =>
      rw [checked_some, ok_bind]
      split <;> exact fun same => nomatch same

theorem rest_of_advance {total amount : Word} {tail : String} {next : State}
    (advanced : advance total tail amount = .ok next) : next.rest = tail := by
  rw [advance] at advanced
  cases added : total.add? amount with
  | none =>
      rw [added] at advanced
      cases advanced
  | some sum =>
      rw [added, checked_some, ok_bind] at advanced
      split at advanced
      · cases advanced
      · cases advanced
        rfl

theorem turn_ne_trap (state : State) (trap : Trap) : turn state ≠ .error (.trap trap) := by
  obtain ⟨rest, total⟩ := state
  have turned := turn_eq rest.toList total
  rw [String.ofList_toList] at turned
  rw [turned]
  cases (Segment.cut rest.toList).1.amountWord with
  | error fault => exact fun same => nomatch same
  | ok amount => exact advance_ne_trap total _ amount trap

end Machine

theorem cutFraction_suffix (cs : List Char) : (cutFraction cs).2 <:+ cs := by
  unfold cutFraction
  split
  case h_1 rest => exact (List.dropWhile_suffix _).trans (List.suffix_cons '.' rest)
  case h_2 => exact List.suffix_rfl

theorem Segment.cut_suffix (cs : List Char) : (Segment.cut cs).2 <:+ cs :=
  (List.dropWhile_suffix _).trans ((cutFraction_suffix _).trans (List.dropWhile_suffix _))

namespace Machine

theorem utf8ByteSize_lt_of_suffix {tail cs : List Char} (suffix : tail <:+ cs)
    (shorter : tail.length < cs.length) :
    (String.ofList tail).utf8ByteSize < (String.ofList cs).utf8ByteSize := by
  obtain ⟨front, rfl⟩ := suffix
  have given : String.ofList front ≠ "" := by
    intro empty
    rw [String.ofList_eq_empty_iff] at empty
    subst empty
    exact Nat.lt_irrefl _ shorter
  rw [String.ofList_append, String.utf8ByteSize_append]
  exact Nat.lt_add_of_pos_left (Nat.pos_of_ne_zero (mt String.utf8ByteSize_eq_zero_iff.mp given))

theorem utf8ByteSize_lt_of_turn {state next : State} (turned : turn state = .ok next) :
    next.rest.utf8ByteSize < state.rest.utf8ByteSize := by
  obtain ⟨rest, total⟩ := state
  obtain ⟨cs, rfl⟩ : ∃ cs, rest = String.ofList cs := ⟨rest.toList, String.ofList_toList.symm⟩
  rw [turn_eq, bind_eq_ok] at turned
  obtain ⟨amount, known, advanced⟩ := turned
  rw [rest_of_advance advanced]
  exact utf8ByteSize_lt_of_suffix (Segment.cut_suffix cs) (Segment.length_cut_lt cs
    (Segment.unit_ne_nil_of_amountWord (mapError_eq_ok.mp known)))

theorem loop_succ {cs : List Char} (given : cs ≠ []) (turns : Nat) (total : Word) :
    loop (turns + 1) ⟨.ofList cs, total⟩ = turn ⟨.ofList cs, total⟩ >>= loop turns := by
  rw [loop, if_neg (mt String.ofList_eq_empty_iff.mp given)]

/-- Every character is worth a turn, since a turn takes one at least. -/
theorem loop_eq (cs : List Char) (total : Word) {turns : Nat} (enough : cs.length ≤ turns) :
    loop (turns + 1) ⟨.ofList cs, total⟩ = (sumWords cs total).mapError .fault := by
  fun_induction sumWords cs total generalizing turns with
  | case1 total => rfl
  | case2 cs total text fault failed =>
      rw [loop_succ text, turn_eq, failed]
      rfl
  | case3 cs total text amount known none =>
      rw [loop_succ text, turn_eq, known, mapError_ok, ok_bind, advance, none]
      rfl
  | case4 cs total text amount known sum added far =>
      rw [loop_succ text, turn_eq, known, mapError_ok, ok_bind, advance, added, checked_some,
        ok_bind, if_pos far]
      rfl
  | case5 cs total text amount known sum added near ih =>
      have shorter := Segment.length_cut_lt cs (Segment.unit_ne_nil_of_amountWord known)
      obtain ⟨more, rfl⟩ := Nat.exists_eq_add_one_of_ne_zero (n := turns) (by omega)
      rw [loop_succ text, turn_eq, known, mapError_ok, ok_bind, advance, added, checked_some,
        ok_bind, if_neg near, ok_bind]
      exact ih (by omega)

theorem negate_of_nonneg {word : Word} (sign : ¬ word.msb) : negate word = .ok (-word) := by
  apply if_neg
  rw [BitVec.negOverflow, BitVec.toInt_eq_msb_cond, if_neg sign, beq_iff_eq]
  omega

theorem signed_eq (negative : Bool) (total : Word) :
    signed negative total = (ofWord negative total).mapError .fault := by
  rw [signed, ofWord]
  by_cases sign : total.msb
  · rw [if_pos sign, if_pos sign]
    rfl
  · rw [if_neg sign, if_neg sign]
    cases negative with
    | true =>
        rw [if_pos rfl, if_pos rfl, negate_of_nonneg sign, ok_bind]
        dsimp only
        split <;> rfl
    | false =>
        rw [if_neg Bool.false_ne_true, if_neg Bool.false_ne_true, ok_bind]
        dsimp only
        split <;> rfl

theorem cutAt_one {c : Char} (ascii : c.toNat < 0x80) (rest : List Char) :
    cutAt (.ofList (c :: rest)) 1 = .ok (.ofList [c], .ofList rest) := by
  rw [cutAt, Text.cutAt?_one ascii]
  rfl

theorem cutSign_eq (cs : List Char) :
    cutSign (.ofList cs) = .ok ((Duration.cutSign cs).1, .ofList (Duration.cutSign cs).2) := by
  have minus : (octets (.ofList cs)).head? = some 0x2d ↔ cs.head? = some '-' :=
    Text.head?_octets_iff (d := '-') (by decide) cs
  have plus : (octets (.ofList cs)).head? = some 0x2b ↔ cs.head? = some '+' :=
    Text.head?_octets_iff (d := '+') (by decide) cs
  -- The cases are the signs that a text may begin with.
  by_cases negative : cs.head? = some '-'
  · obtain ⟨rest, rfl⟩ := List.head?_eq_some_iff.mp negative
    rw [cutSign, if_pos (minus.mpr negative), cutAt_one (by decide)]
    rfl
  · by_cases positive : cs.head? = some '+'
    · obtain ⟨rest, rfl⟩ := List.head?_eq_some_iff.mp positive
      rw [cutSign, if_neg (mt minus.mp negative), if_pos (plus.mpr positive),
        cutAt_one (by decide)]
      rfl
    · rw [cutSign, if_neg (mt minus.mp negative), if_neg (mt plus.mp positive),
        Duration.cutSign]
      · rfl
      · rintro rest rfl
        exact negative rfl
      · rintro rest rfl
        exact positive rfl

theorem length_cutSign_le (cs : List Char) : (Duration.cutSign cs).2.length ≤ cs.length := by
  unfold Duration.cutSign
  split
  case h_1 rest => exact Nat.le_succ rest.length
  case h_2 rest => exact Nat.le_succ rest.length
  case h_3 => exact Nat.le_refl _

theorem readBody_eq (negative : Bool) {body : List Char} {turns : Nat}
    (enough : body.length < turns) :
    readBody turns negative (.ofList body) =
      (readBodyInWords negative body).mapError .fault := by
  have zero : String.ofList body = "0" ↔ body = ['0'] := by
    rw [← String.ofList_inj]
  rw [readBody, readBodyInWords]
  simp only [zero, String.ofList_eq_empty_iff]
  by_cases single : body = ['0']
  · rw [if_pos single, if_pos single]
    rfl
  · rw [if_neg single, if_neg single]
    by_cases empty : body = []
    · rw [if_pos empty, if_pos empty]
      rfl
    · obtain ⟨more, rfl⟩ := Nat.exists_eq_add_one_of_ne_zero (Nat.ne_zero_of_lt enough)
      rw [if_neg empty, if_neg empty, loop_eq body 0 (Nat.le_of_lt_succ enough)]
      cases sumWords body 0 with
      | error fault => rfl
      | ok total => exact signed_eq negative total

theorem read_eq (text : String) {turns : Nat} (enough : text.length < turns) :
    read turns text = (readBodyInWords (Duration.cutSign text.toList).1
      (Duration.cutSign text.toList).2).mapError .fault := by
  have cut := cutSign_eq text.toList
  have short := length_cutSign_le text.toList
  rw [String.ofList_toList] at cut
  rw [String.length_toList] at short
  rw [read, cut, ok_bind]
  exact readBody_eq _ (Nat.lt_of_le_of_lt short enough)

end Machine

theorem readInOctets_eq (text : String) {turns : Nat} (enough : text.length < turns) :
    readInOctets turns text = .ok (read text) := by
  have machine := Machine.read_eq text enough
  rw [← readInWords_eq, readInOctets, readInWords, machine]
  rcases cutSign text.toList with ⟨negative, body⟩
  dsimp only
  cases readBodyInWords negative body <;> rfl

theorem read_micro : read "1.5µs2é" = .error ⟨.unknownUnit ['é'], "1.5µs2é"⟩ := by
  have cut : cutSign "1.5µs2é".toList = (false, ['1', '.', '5', 'µ', 's', '2', 'é']) := rfl
  have first : (Segment.cut ['1', '.', '5', 'µ', 's', '2', 'é']).1.amount = .ok 1500 := by decide
  have second : (Segment.cut ['2', 'é']).1.amount = .error (.unknownUnit ['é']) := by decide
  have sum : sumSegments ['1', '.', '5', 'µ', 's', '2', 'é'] 0 =
      .error (.unknownUnit ['é']) := by
    rw [sumSegments_cut first, if_neg (by decide)]
    exact sumSegments_of_fault (by decide) second 1500
  rw [read, cut]
  dsimp only
  rw [readBody, if_neg (by decide), if_neg (by decide), sum]
  rfl

theorem Machine.turn_micro : turn ⟨"1.5µs2é", 0⟩ = .ok ⟨"2é", 1500⟩ := by
  have cut : Segment.cut ['1', '.', '5', 'µ', 's', '2', 'é'] =
      (⟨['1'], ['5'], ['µ', 's']⟩, ['2', 'é']) := by decide
  have amount : Segment.amountWord ⟨['1'], ['5'], ['µ', 's']⟩ = .ok 1500 := by decide
  have turned := turn_eq ['1', '.', '5', 'µ', 's', '2', 'é'] 0
  rw [cut] at turned
  dsimp only at turned
  rw [amount] at turned
  exact turned

/-- In every text, runs of octets end between two characters. A fraction in any number of digits
comes to a word that is right, and no turn of the loop gets into a trap or leaves as much text as
it found. A turn for each character and one more are enough for any text, and the machine then
answers what the text reads as. -/
theorem reads_without_traps (text : String) :
    (∀ rest : String, String.Pos.Raw.IsValid rest ⟨run Machine.isDigitOctet rest⟩ ∧
      String.Pos.Raw.IsValid rest ⟨run Machine.isUnitOctet rest⟩) ∧
    (∀ (digits : List Char) (unit : TimeUnit), (∀ c ∈ digits, c.isDigit) →
      ∃ word, Machine.fractionWord (.ofList digits) unit = .ok word ∧
        word.toNat = fractionNanoseconds digits unit) ∧
    (∀ state next, Machine.turn state = .ok next →
      next.rest.utf8ByteSize < state.rest.utf8ByteSize) ∧
    (∀ state trap, Machine.turn state ≠ .error (.trap trap)) ∧
    ∀ turns, text.length < turns → readInOctets turns text = .ok (read text) := by
  refine ⟨fun rest => ⟨Machine.tells_digits.isValid_run rest,
    Machine.tells_unitChars.isValid_run rest⟩, ?_, fun _ _ => Machine.utf8ByteSize_lt_of_turn,
    Machine.turn_ne_trap, fun _ => readInOctets_eq text⟩
  intro digits unit all
  exact ⟨_, Machine.fractionWord_eq all unit, fractionWord_toNat all unit⟩

theorem reads_micro_without_traps :
    let text := "1.5µs2é"
    let digits := List.replicate 40 '9'
    text.length < 8 ∧ readInOctets 8 text = .ok (.error ⟨.unknownUnit ['é'], text⟩) ∧
      Machine.turn ⟨text, 0⟩ = .ok ⟨"2é", 1500⟩ ∧ "2é".utf8ByteSize < text.utf8ByteSize ∧
      (∀ c ∈ digits, c.isDigit) ∧
      ∃ word, Machine.fractionWord (.ofList digits) .hour = .ok word ∧
        word.toNat = 3599999999999 := by
  intro text digits
  have length : text.length < 8 := by decide
  have all : ∀ c ∈ digits, c.isDigit := List.all_eq_true.mp rfl
  have value : fractionNanoseconds digits .hour = 3599999999999 := by decide
  obtain ⟨-, fractions, shorter, -, reads⟩ := reads_without_traps text
  have machine := reads 8 length
  rw [read_micro] at machine
  have fraction := fractions digits .hour all
  rw [value] at fraction
  exact ⟨length, machine, Machine.turn_micro, shorter _ _ Machine.turn_micro, all, fraction⟩

end FederationConfig.Duration
