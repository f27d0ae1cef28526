import FederationConfig.Proofs.Duration.RoundTrip

/-!
Durations read in machine words of 128 bits. The operations that may leave a word are checked,
the ones on a fraction are not. Words find in every text what numbers of any size find there.
-/

namespace FederationConfig.Duration

open Text (bounds_of_isDigit)

/-- An unsigned word. Its plain operations lose what does not fit. -/
abbrev Word := BitVec 128

namespace Word

def add? (a b : Word) : Option Word := if a.uaddOverflow b then none else some (a + b)

def mul? (a b : Word) : Option Word := if a.umulOverflow b then none else some (a * b)

def ofDigit (c : Char) : Word :=
  (BitVec.ofNat 8 c.toNat - BitVec.ofNat 8 '0'.toNat).setWidth 128

def ofUnit (unit : TimeUnit) : Word := .ofNat 128 unit.nanoseconds

def fit? (n : Nat) : Option Word := if n < 2 ^ 128 then some (.ofNat 128 n) else none

theorem add?_eq (a b : Word) : a.add? b = fit? (a.toNat + b.toNat) := by
  rw [add?, fit?]
  by_cases fits : a.toNat + b.toNat < 2 ^ 128
  · rw [if_neg (by simpa [BitVec.uaddOverflow] using fits), if_pos fits, BitVec.ofNat_add,
      BitVec.ofNat_toNat, BitVec.ofNat_toNat, BitVec.setWidth_eq, BitVec.setWidth_eq]
  · rw [if_pos (by simpa [BitVec.uaddOverflow] using fits), if_neg fits]

theorem toNat_of_fit? {n : Nat} {word : Word} (fits : fit? n = some word) : word.toNat = n := by
  rw [fit?] at fits
  split_ifs at fits with small
  cases fits
  rw [BitVec.toNat_ofNat, Nat.mod_eq_of_lt small]

theorem toNat_of_add? {a b sum : Word} (added : a.add? b = some sum) :
    sum.toNat = a.toNat + b.toNat := by
  rw [add?_eq] at added
  exact toNat_of_fit? added

def fit (n : Nat) : Except Fault Word :=
  match fit? n with
  | none => .error .overflow
  | some word => .ok word

theorem toNat_of_fit {n : Nat} {word : Word} (fits : fit n = .ok word) : word.toNat = n := by
  unfold fit at fits
  split at fits
  · cases fits
  case h_2 inside =>
    cases fits
    exact toNat_of_fit? inside

theorem overflow_of_fit {n : Nat} {fault : Fault} (large : fit n = .error fault) :
    fault = .overflow ∧ 2 ^ 128 ≤ n := by
  unfold fit at large
  split at large
  case h_1 outside =>
    cases large
    rw [fit?] at outside
    split_ifs at outside with small
    exact ⟨rfl, Nat.le_of_not_lt small⟩
  · cases large

theorem mul?_eq (a b : Word) : a.mul? b = fit? (a.toNat * b.toNat) := by
  rw [mul?, fit?]
  by_cases fits : a.toNat * b.toNat < 2 ^ 128
  · rw [if_neg (by simpa [BitVec.umulOverflow] using fits), if_pos fits, BitVec.ofNat_mul,
      BitVec.ofNat_toNat, BitVec.ofNat_toNat, BitVec.setWidth_eq, BitVec.setWidth_eq]
  · rw [if_pos (by simpa [BitVec.umulOverflow] using fits), if_neg fits]

theorem fit?_bind {n m : Nat} {f : Word → Option Word} (grows : n ≤ m)
    (next : ∀ word : Word, word.toNat = n → f word = fit? m) : (fit? n).bind f = fit? m := by
  by_cases fits : n < 2 ^ 128
  · rw [fit?, if_pos fits, Option.bind_some]
    apply next
    rw [BitVec.toNat_ofNat, Nat.mod_eq_of_lt fits]
  · have far : ¬ m < 2 ^ 128 := fun small => fits (Nat.lt_of_le_of_lt grows small)
    rw [fit?, if_neg fits, Option.bind_none, fit?, if_neg far]

theorem toNat_ofUnit (unit : TimeUnit) : (ofUnit unit).toNat = unit.nanoseconds := by
  cases unit <;> rfl

theorem ofDigit_eq {c : Char} (digit : c.isDigit) :
    ofDigit c = .ofNat 128 (c.toNat - '0'.toNat) := by
  have bounds := bounds_of_isDigit digit
  have zero : '0'.toNat = 48 := rfl
  apply BitVec.eq_of_toNat_eq
  rw [ofDigit, BitVec.toNat_setWidth, BitVec.toNat_sub, BitVec.toNat_ofNat, BitVec.toNat_ofNat,
    BitVec.toNat_ofNat, zero]
  omega

theorem toNat_ofDigit {c : Char} (digit : c.isDigit) :
    (ofDigit c).toNat = c.toNat - '0'.toNat := by
  have bounds := bounds_of_isDigit digit
  rw [ofDigit_eq digit, BitVec.toNat_ofNat]
  omega

end Word

def nextDigit? (value : Word) (c : Char) : Option Word :=
  (value.mul? 10).bind fun shifted => shifted.add? (Word.ofDigit c)

def digitsWord? (digits : List Char) : Option Word := digits.foldlM nextDigit? 0

/-- A fraction is kept as a numerator and a power of ten. -/
def nextPlace (parts : Word × Word) (c : Char) : Word × Word :=
  (parts.1 * 10 + Word.ofDigit c, parts.2 * 10)

def fractionWord (digits : List Char) (unit : TimeUnit) : Word :=
  let parts := (digits.take fractionPlaces).foldl nextPlace (0, 1)
  parts.1 * Word.ofUnit unit / parts.2

def Segment.nanosecondsWord? (segment : Segment) (unit : TimeUnit) : Option Word :=
  (digitsWord? segment.whole).bind fun whole =>
    (whole.mul? (Word.ofUnit unit)).bind fun units =>
      units.add? (fractionWord segment.fraction unit)

def Segment.amountWord (segment : Segment) : Except Fault Word :=
  if segment.whole = [] ∧ segment.fraction = [] then .error .invalid
  else if segment.unit = [] then .error .missingUnit
  else match TimeUnit.ofName? segment.unit with
    | none => .error (.unknownUnit segment.unit)
    | some unit => match segment.nanosecondsWord? unit with
      | none => .error .overflow
      | some amount => .ok amount

theorem Segment.unit_ne_nil_of_amountWord {segment : Segment} {amount : Word}
    (known : segment.amountWord = .ok amount) : segment.unit ≠ [] := by
  intro empty
  simp only [Segment.amountWord, empty] at known
  split at known <;> simp at known

def sumWords (cs : List Char) (total : Word) : Except Fault Word :=
  if cs = [] then .ok total
  else match _known : (Segment.cut cs).1.amountWord with
    | .error fault => .error fault
    | .ok amount => match total.add? amount with
      | none => .error .overflow
      | some sum =>
        if BitVec.ofNat 128 greatestMagnitude < sum then .error .overflow
        else sumWords (Segment.cut cs).2 sum
termination_by cs.length
decreasing_by exact Segment.length_cut_lt cs (Segment.unit_ne_nil_of_amountWord _known)

def ofWord (negative : Bool) (total : Word) : Except Fault Duration :=
  let signed := if negative then -total else total
  if total.msb then .error .overflow
  else if Fits ⟨signed.toInt⟩ then .ok ⟨signed.toInt⟩
  else .error .overflow

def readBodyInWords (negative : Bool) (body : List Char) : Except Fault Duration :=
  if body = ['0'] then .ok zero
  else if body = [] then .error .invalid
  else match sumWords body 0 with
    | .error fault => .error fault
    | .ok total => ofWord negative total

def readInWords (text : String) : Except ReadError Duration :=
  let (negative, body) := cutSign text.toList
  (readBodyInWords negative body).mapError (⟨·, text⟩)

theorem nextDigit?_eq (value : Word) {c : Char} (digit : c.isDigit) :
    nextDigit? value c = Word.fit? (10 * value.toNat + (c.toNat - '0'.toNat)) := by
  have ten : (10 : Word).toNat = 10 := rfl
  rw [nextDigit?, Word.mul?_eq, ten, Nat.mul_comm value.toNat]
  apply Word.fit?_bind (Nat.le_add_right _ _)
  intro shifted same
  rw [Word.add?_eq, same, Word.toNat_ofDigit digit]

theorem foldlM_nextDigit? (digits : List Char) (start : Word) (all : ∀ c ∈ digits, c.isDigit) :
    digits.foldlM nextDigit? start = Word.fit? (Nat.ofDigitChars 10 digits start.toNat) := by
  induction digits generalizing start with
  | nil =>
      rw [Nat.ofDigitChars_nil, Word.fit?, if_pos start.isLt, BitVec.ofNat_toNat,
        BitVec.setWidth_eq]
      rfl
  | cons c rest ih =>
      rw [List.foldlM_cons, nextDigit?_eq start (all c List.mem_cons_self),
        Nat.ofDigitChars_cons]
      apply Word.fit?_bind (le_ofDigitChars rest _)
      intro word same
      rw [ih word fun d member => all d (List.mem_cons_of_mem c member), same]

theorem digitsWord?_eq {digits : List Char} (all : ∀ c ∈ digits, c.isDigit) :
    digitsWord? digits = Word.fit? (digitsValue digits) :=
  foldlM_nextDigit? digits 0 all

theorem foldl_nextPlace (digits : List Char) (numerator denominator : Nat)
    (all : ∀ c ∈ digits, c.isDigit) :
    digits.foldl nextPlace (.ofNat 128 numerator, .ofNat 128 denominator) =
      (.ofNat 128 (Nat.ofDigitChars 10 digits numerator),
        .ofNat 128 (denominator * 10 ^ digits.length)) := by
  induction digits generalizing numerator denominator with
  | nil => rw [List.foldl_nil, Nat.ofDigitChars_nil, List.length_nil, Nat.pow_zero, Nat.mul_one]
  | cons c rest ih =>
      have step : nextPlace (.ofNat 128 numerator, .ofNat 128 denominator) c =
          (.ofNat 128 (10 * numerator + (c.toNat - '0'.toNat)), .ofNat 128 (denominator * 10)) := by
        rw [nextPlace, Word.ofDigit_eq (all c List.mem_cons_self), Nat.mul_comm 10 numerator,
          BitVec.ofNat_add, BitVec.ofNat_mul, BitVec.ofNat_mul]
        rfl
      rw [List.foldl_cons, step, ih _ _ fun d member => all d (List.mem_cons_of_mem c member),
        Nat.ofDigitChars_cons, List.length_cons, Nat.pow_succ', Nat.mul_assoc]

theorem nanoseconds_le (unit : TimeUnit) : unit.nanoseconds ≤ 60 * (60 * 10 ^ 9) := by
  cases unit <;> decide

/-- Eighteen digits of the greatest unit are far from the end of a word. -/
theorem fraction_fits {digits : List Char} (all : ∀ c ∈ digits, c.isDigit)
    (short : digits.length ≤ fractionPlaces) (unit : TimeUnit) :
    digitsValue digits * unit.nanoseconds < 2 ^ 128 ∧ 10 ^ digits.length < 2 ^ 128 := by
  have places : 10 ^ digits.length ≤ 10 ^ 18 := Nat.pow_le_pow_right (by decide) short
  have value : digitsValue digits ≤ 10 ^ 18 := Nat.le_trans (digitsValue_lt all).le places
  have product : digitsValue digits * unit.nanoseconds ≤ 10 ^ 18 * (60 * (60 * 10 ^ 9)) :=
    Nat.mul_le_mul value (nanoseconds_le unit)
  omega

theorem fractionWord_toNat {digits : List Char} (all : ∀ c ∈ digits, c.isDigit)
    (unit : TimeUnit) : (fractionWord digits unit).toNat = fractionNanoseconds digits unit := by
  have kept : ∀ c ∈ digits.take fractionPlaces, c.isDigit :=
    fun c member => all c (List.mem_of_mem_take member)
  have short : (digits.take fractionPlaces).length ≤ fractionPlaces := List.length_take_le ..
  obtain ⟨product, places⟩ := fraction_fits kept short unit
  have parts := foldl_nextPlace (digits.take fractionPlaces) 0 1 kept
  rw [Nat.one_mul] at parts
  have start : ((0, 1) : Word × Word) = (.ofNat 128 0, .ofNat 128 1) := rfl
  rw [fractionWord, start, parts, Word.ofUnit]
  dsimp only
  rw [← BitVec.ofNat_mul, BitVec.toNat_udiv, BitVec.toNat_ofNat, BitVec.toNat_ofNat,
    Nat.mod_eq_of_lt places, fractionNanoseconds]
  exact congrArg (· / _) (Nat.mod_eq_of_lt product)

theorem Segment.nanosecondsWord?_eq {segment : Segment}
    (whole : ∀ c ∈ segment.whole, c.isDigit) (fraction : ∀ c ∈ segment.fraction, c.isDigit)
    (unit : TimeUnit) :
    segment.nanosecondsWord? unit = Word.fit? (segment.nanoseconds unit) := by
  have grows : digitsValue segment.whole ≤ digitsValue segment.whole * unit.nanoseconds :=
    Nat.le_mul_of_pos_right _ unit.nanoseconds_pos
  rw [nanosecondsWord?, digitsWord?_eq whole]
  apply Word.fit?_bind (Nat.le_trans grows (Nat.le_add_right _ _))
  intro count counted
  rw [Word.mul?_eq, counted, Word.toNat_ofUnit]
  apply Word.fit?_bind (Nat.le_add_right _ _)
  intro units same
  rw [Word.add?_eq, same, fractionWord_toNat fraction]

theorem Segment.amountWord_eq {segment : Segment}
    (whole : ∀ c ∈ segment.whole, c.isDigit) (fraction : ∀ c ∈ segment.fraction, c.isDigit) :
    segment.amountWord = segment.amount >>= Word.fit := by
  unfold Segment.amountWord Segment.amount
  split_ifs
  · rfl
  · rfl
  · cases TimeUnit.ofName? segment.unit with
    | none => rfl
    | some unit =>
        dsimp only
        rw [Segment.nanosecondsWord?_eq whole fraction]
        rfl

theorem Segment.amount_of_amountWord {cs : List Char} {amount : Word}
    (known : (Segment.cut cs).1.amountWord = .ok amount) :
    (Segment.cut cs).1.amount = .ok amount.toNat := by
  obtain ⟨whole, fraction⟩ := Segment.isDigit_of_mem_cut cs
  rw [Segment.amountWord_eq whole fraction, bind_eq_ok] at known
  obtain ⟨number, known, fits⟩ := known
  rw [known, Word.toNat_of_fit fits]

/-- What does not fit a word is beyond the range of durations. -/
theorem sumSegments_of_amountWord {cs : List Char} {fault : Fault} (text : cs ≠ [])
    (failed : (Segment.cut cs).1.amountWord = .error fault) (total : Nat) :
    sumSegments cs total = .error fault := by
  obtain ⟨whole, fraction⟩ := Segment.isDigit_of_mem_cut cs
  rw [Segment.amountWord_eq whole fraction, bind_eq_error] at failed
  rcases failed with failed | ⟨number, known, large⟩
  · exact sumSegments_of_fault text failed total
  · obtain ⟨rfl, far⟩ := Word.overflow_of_fit large
    have beyond : greatestMagnitude < total + number := by
      rw [greatestMagnitude]
      omega
    rw [sumSegments_cut known, if_pos beyond]

theorem sumWords_eq (cs : List Char) (total : Word) (start : total.toNat ≤ greatestMagnitude) :
    sumWords cs total = (sumSegments cs total.toNat).map (BitVec.ofNat 128) := by
  have limit : (BitVec.ofNat 128 greatestMagnitude).toNat = greatestMagnitude := rfl
  fun_induction sumWords cs total with
  | case1 total =>
      rw [sumSegments_nil, Except.map, BitVec.ofNat_toNat, BitVec.setWidth_eq]
  | case2 cs total text fault failed =>
      rw [sumSegments_of_amountWord text failed]
      rfl
  | case3 cs total text amount known none =>
      have far : greatestMagnitude < total.toNat + amount.toNat := by
        rw [Word.add?_eq, Word.fit?] at none
        split_ifs at none with fits
        rw [greatestMagnitude]
        omega
      rw [sumSegments_cut (Segment.amount_of_amountWord known), if_pos far]
      rfl
  | case4 cs total text amount known sum added far =>
      rw [BitVec.lt_def, limit, Word.toNat_of_add? added] at far
      rw [sumSegments_cut (Segment.amount_of_amountWord known), if_pos far]
      rfl
  | case5 cs total text amount known sum added near ih =>
      rw [BitVec.lt_def, limit] at near
      have same := Word.toNat_of_add? added
      rw [sumSegments_cut (Segment.amount_of_amountWord known), ← same, if_neg near]
      exact ih (Nat.le_of_not_lt near)

theorem ofWord_eq (negative : Bool) {total : Nat} (inside : total ≤ greatestMagnitude) :
    ofWord negative (.ofNat 128 total) =
      if negative then .ok ⟨-(total : Int)⟩
      else if total = greatestMagnitude then .error .overflow
      else .ok ⟨total⟩ := by
  rw [greatestMagnitude] at inside
  have sign : (BitVec.ofNat 128 total).msb = false := by
    rw [BitVec.msb_eq_decide, decide_eq_false_iff_not, BitVec.toNat_ofNat]
    omega
  have plain : (BitVec.ofNat 128 total).toInt = total := by
    rw [BitVec.toInt_ofNat', Int.bmod_eq_of_le (by omega) (by omega)]
  have minus : (-BitVec.ofNat 128 total).toInt = -(total : Int) := by
    rw [BitVec.toInt_neg, plain, Int.bmod_eq_of_le (by omega) (by omega)]
  have positive : ¬ (BitVec.ofNat 128 total).msb := by rw [sign]; exact Bool.false_ne_true
  cases negative with
  | true =>
      have fits : Fits ⟨-(total : Int)⟩ := by
        simp only [Fits]
        omega
      rw [ofWord, if_pos rfl, if_neg positive, minus, if_pos fits, if_pos rfl]
  | false =>
      rw [ofWord, if_neg Bool.false_ne_true, if_neg positive, plain, if_neg Bool.false_ne_true]
      by_cases greatest : total = greatestMagnitude
      · have outside : ¬ Fits ⟨total⟩ := by
          simp only [Fits, greatestMagnitude] at *
          omega
        rw [if_neg outside, if_pos greatest]
      · have fits : Fits ⟨total⟩ := by
          simp only [Fits, greatestMagnitude] at *
          omega
        rw [if_pos fits, if_neg greatest]

theorem readBodyInWords_eq (negative : Bool) (body : List Char) :
    readBodyInWords negative body = readBody negative body := by
  have sums : sumWords body 0 = (sumSegments body 0).map (BitVec.ofNat 128) :=
    sumWords_eq body 0 (Nat.zero_le _)
  by_cases zero : body = ['0']
  · rw [readBodyInWords, if_pos zero, readBody, if_pos zero]
  · by_cases empty : body = []
    · rw [readBodyInWords, if_neg zero, if_pos empty, readBody, if_neg zero, if_pos empty]
    · rw [readBodyInWords, if_neg zero, if_neg empty, readBody, if_neg zero, if_neg empty, sums]
      cases summed : sumSegments body 0 with
      | error fault => rfl
      | ok total => exact ofWord_eq negative (sumSegments_le (Nat.zero_le _) summed)

theorem readInWords_eq (text : String) : readInWords text = read text := by
  rw [readInWords, read]
  simp only [readBodyInWords_eq]

end FederationConfig.Duration
