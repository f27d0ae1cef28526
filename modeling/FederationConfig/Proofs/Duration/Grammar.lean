import FederationConfig.Proofs.Duration.Number
import FederationConfig.Proofs.Duration.Word

/-!
How durations may be written, and which amounts their texts stand for. A text is read exactly if
it is written so and the amount it stands for is in range; words of 128 bits suffice to find out.
-/

namespace FederationConfig

def TimeUnit.spellings : TimeUnit → List (List Char)
  | nanosecond => [['n', 's']]
  | microsecond => [['u', 's'], ['\u00b5', 's'], ['\u03bc', 's']]
  | millisecond => [['m', 's']]
  | second => [['s']]
  | minute => [['m']]
  | hour => [['h']]

theorem TimeUnit.ofName?_of_mem_spellings {name : List Char} {unit : TimeUnit}
    (spelled : name ∈ unit.spellings) : ofName? name = some unit := by
  cases unit <;> simp only [spellings, List.mem_cons, List.not_mem_nil, or_false] at spelled
  case microsecond => rcases spelled with rfl | rfl | rfl <;> rfl
  all_goals
    subst spelled
    rfl

theorem TimeUnit.mem_spellings_of_ofName? {name : List Char} {unit : TimeUnit}
    (named : ofName? name = some unit) : name ∈ unit.spellings := by
  unfold ofName? at named
  split_ifs at named with nano micro milli second minute hour
  all_goals cases named
  · simp [spellings, nano]
  · simpa [spellings] using micro
  · simp [spellings, milli]
  · simp [spellings, second]
  · simp [spellings, minute]
  · simp [spellings, hour]

theorem TimeUnit.spellings_unitChars {name : List Char} {unit : TimeUnit}
    (spelled : name ∈ unit.spellings) : name ≠ [] ∧ ∀ c ∈ name, Duration.isUnitChar c := by
  have all : unit.spellings.all fun other => other ≠ [] ∧ other.all Duration.isUnitChar := by
    cases unit <;> decide
  have spelling := of_decide_eq_true (List.all_eq_true.mp all name spelled)
  exact ⟨spelling.1, List.all_eq_true.mp spelling.2⟩

namespace Duration

open Text (Stops stops_nil takeWhile_append_stops dropWhile_append_stops)

structure WrittenSegment where
  whole : List Char
  fraction : Option (List Char)
  unit : TimeUnit
  name : List Char
  wholeDigits : ∀ c ∈ whole, c.isDigit
  fractionDigits : ∀ digits ∈ fraction, ∀ c ∈ digits, c.isDigit
  given : whole ≠ [] ∨ ∃ digits ∈ fraction, digits ≠ []
  spelled : name ∈ unit.spellings

theorem isDigit_of_mem_some {digits : List Char} (all : digits.all Char.isDigit) :
    ∀ given ∈ some digits, ∀ c ∈ given, c.isDigit := by
  intro given same
  cases same
  exact List.all_eq_true.mp all

namespace WrittenSegment

def fractionText (written : WrittenSegment) : List Char := written.fraction.elim [] ('.' :: ·)

def text (written : WrittenSegment) : List Char :=
  written.whole ++ written.fractionText ++ written.name

/-- The part of a fraction that counts: its first digits, at most eighteen of them. -/
def keptDigits (written : WrittenSegment) : List Char := (written.fraction.getD []).take 18

/-- Whole units, and the whole nanoseconds in the fraction of one. -/
def amount (written : WrittenSegment) : Nat :=
  Nat.ofDigitChars 10 written.whole 0 * written.unit.nanoseconds +
    Nat.ofDigitChars 10 written.keptDigits 0 * written.unit.nanoseconds /
      10 ^ written.keptDigits.length

def number (written : WrittenSegment) : WrittenNumber :=
  ⟨written.whole, written.fraction, written.wholeDigits, written.fractionDigits, written.given⟩

theorem cut_text (written : WrittenSegment) {rest : List Char} (stops : Stops isUnitChar rest) :
    Segment.cut (written.text ++ rest) =
      (⟨written.whole, written.fraction.getD [], written.name⟩, rest) := by
  obtain ⟨named, unitChars⟩ := TimeUnit.spellings_unitChars written.spelled
  have cut := written.number.cut_text (written.number.ends_of_name named unitChars rest)
  rw [takeWhile_append_stops unitChars stops, dropWhile_append_stops unitChars stops,
    ← List.append_assoc] at cut
  exact cut

theorem known (written : WrittenSegment) :
    Segment.amount ⟨written.whole, written.fraction.getD [], written.name⟩ =
      .ok written.amount := by
  have digits : ¬ (written.whole = [] ∧ written.fraction.getD [] = []) := written.number.not_empty
  have named := (TimeUnit.spellings_unitChars written.spelled).1
  rw [Segment.amount, if_neg digits, if_neg named,
    TimeUnit.ofName?_of_mem_spellings written.spelled]
  rfl

theorem stops_text (written : WrittenSegment) (rest : List Char) :
    Stops isUnitChar (written.text ++ rest) := by
  intro c found
  cases whole : written.whole with
  | cons first others =>
      have digit := written.wholeDigits first (whole ▸ List.mem_cons_self)
      rw [text, whole] at found
      cases found
      simp [isUnitChar, digit]
  | nil =>
      rcases written.given with digits | ⟨digits, fraction, _⟩
      · exact absurd whole digits
      · rw [text, whole, fractionText, fraction] at found
        cases found
        rfl

end WrittenSegment

def segmentsText (segments : List WrittenSegment) : List Char :=
  segments.flatMap WrittenSegment.text

def segmentsAmount : List WrittenSegment → Nat
  | [] => 0
  | written :: others => written.amount + segmentsAmount others

theorem stops_segmentsText (segments : List WrittenSegment) :
    Stops isUnitChar (segmentsText segments) := by
  cases segments with
  | nil => exact stops_nil isUnitChar
  | cons written others => exact written.stops_text (segmentsText others)

theorem reads_segmentsText (segments : List WrittenSegment) :
    Reads (segmentsText segments) (segmentsAmount segments) := by
  induction segments with
  | nil => exact .none
  | cons written others ih =>
      exact .segment (written.cut_text (stops_segmentsText others)) written.known ih

theorem Segment.exists_written {cs rest : List Char} {segment : Segment} {amount : Nat}
    (cut : Segment.cut cs = (segment, rest)) (known : segment.amount = .ok amount) :
    ∃ written : WrittenSegment, cs = written.text ++ rest ∧ written.amount = amount := by
  unfold Segment.amount at known
  split at known
  · cases known
  case isFalse digits =>
    have given := digits
    rw [← show (Segment.cut cs).1 = segment from congrArg Prod.fst cut] at given
    obtain ⟨number, behind, rfl, ends⟩ := Segment.exists_number cs given
    obtain ⟨rfl, rfl⟩ := Prod.mk.inj ((number.cut_text ends).symm.trans cut)
    split at known
    · cases known
    · split at known
      · cases known
      case h_2 unit named =>
        cases known
        refine ⟨⟨number.whole, number.fraction, unit, behind.takeWhile isUnitChar,
          number.wholeDigits, number.fractionDigits, number.given,
          TimeUnit.mem_spellings_of_ofName? named⟩, ?_, rfl⟩
        have parts := List.takeWhile_append_dropWhile (p := isUnitChar) (l := behind)
        conv => lhs; rw [← parts]
        exact (List.append_assoc ..).symm

theorem exists_segments_of_reads {cs : List Char} {amount : Nat} (reads : Reads cs amount) :
    ∃ segments, cs = segmentsText segments ∧ amount = segmentsAmount segments := by
  induction reads with
  | none => exact ⟨[], rfl, rfl⟩
  | segment cut known reads ih =>
      obtain ⟨others, rfl, rfl⟩ := ih
      obtain ⟨written, text, rfl⟩ := Segment.exists_written cut known
      exact ⟨written :: others, text, rfl⟩

/-- What may stand behind the sign, and the amount it stands for. Only a zero needs no unit. -/
inductive BodyAmounts : List Char → Nat → Prop where
  | zero : BodyAmounts ['0'] 0
  | segments (segments : List WrittenSegment) (given : segments ≠ []) :
      BodyAmounts (segmentsText segments) (segmentsAmount segments)

inductive Sign where
  | none
  | plus
  | minus
  deriving DecidableEq, Repr

namespace Sign

def text : Sign → List Char
  | none => []
  | plus => ['+']
  | minus => ['-']

/-- The greatest amount that may stand behind a sign. -/
def limit : Sign → Nat
  | minus => 2 ^ 63
  | _ => 2 ^ 63 - 1

def apply : Sign → Nat → Duration
  | minus, amount => ⟨-(amount : Int)⟩
  | _, amount => ⟨amount⟩

end Sign

theorem segmentsText_ne_nil {segments : List WrittenSegment} (given : segments ≠ []) :
    segmentsText segments ≠ [] := by
  intro empty
  have reads := reads_segmentsText segments
  rw [empty] at reads
  obtain ⟨written, others, rfl⟩ := List.exists_cons_of_ne_nil given
  exact Segment.text_ne_nil (written.cut_text (stops_segmentsText others)) written.known empty

theorem segmentsText_ne_zero (segments : List WrittenSegment) : segmentsText segments ≠ ['0'] := by
  intro zero
  have reads := reads_segmentsText segments
  rw [zero] at reads
  generalize segmentsAmount segments = amount at reads
  cases reads with
  | segment cut known => cases cut; cases known

theorem BodyAmounts.sum {body : List Char} {amount : Nat} (stands : BodyAmounts body amount) :
    body = ['0'] ∧ amount = 0 ∨ body ≠ ['0'] ∧ body ≠ [] ∧ Reads body amount := by
  cases stands with
  | zero => exact .inl ⟨rfl, rfl⟩
  | segments segments given =>
      exact .inr ⟨segmentsText_ne_zero segments, segmentsText_ne_nil given,
        reads_segmentsText segments⟩

theorem BodyAmounts.of_reads {body : List Char} {amount : Nat} (given : body ≠ [])
    (reads : Reads body amount) : BodyAmounts body amount := by
  obtain ⟨segments, rfl, rfl⟩ := exists_segments_of_reads reads
  apply BodyAmounts.segments
  rintro rfl
  exact given rfl

theorem BodyAmounts.head_ne_sign {body : List Char} {amount : Nat}
    (stands : BodyAmounts body amount) : ∀ c ∈ body.head?, c ≠ '-' ∧ c ≠ '+' := by
  intro c found
  cases stands with
  | zero =>
      cases found
      decide
  | segments segments given =>
      have stops := stops_segmentsText segments c found
      constructor
      · rintro rfl
        cases stops
      · rintro rfl
        cases stops

namespace Sign

def isMinus : Sign → Bool
  | minus => true
  | _ => false

/-- A sign is taken off the front if there is one. -/
def Leads (sign : Sign) (body : List Char) : Prop :=
  sign = none → ∀ c ∈ body.head?, c ≠ '-' ∧ c ≠ '+'

theorem cutSign_leads {sign : Sign} {body : List Char} (leads : sign.Leads body) :
    cutSign (sign.text ++ body) = (sign.isMinus, body) := by
  cases sign with
  | plus => rfl
  | minus => rfl
  | none =>
      have unsigned := leads rfl
      rw [text, List.nil_append, cutSign]
      · rfl
      · rintro rest rfl
        exact (unsigned '-' rfl).1 rfl
      · rintro rest rfl
        exact (unsigned '+' rfl).2 rfl

theorem exists_leads (cs : List Char) :
    ∃ (sign : Sign) (body : List Char), cs = sign.text ++ body ∧ sign.Leads body := by
  by_cases negative : cs.head? = some '-'
  · obtain ⟨rest, rfl⟩ := List.head?_eq_some_iff.mp negative
    exact ⟨minus, rest, rfl, fun plain => nomatch plain⟩
  · by_cases positive : cs.head? = some '+'
    · obtain ⟨rest, rfl⟩ := List.head?_eq_some_iff.mp positive
      exact ⟨plus, rest, rfl, fun plain => nomatch plain⟩
    · refine ⟨none, cs, rfl, fun _ c found => ⟨?_, ?_⟩⟩
      · rintro rfl
        exact negative found
      · rintro rfl
        exact positive found

theorem exists_text (cs : List Char) :
    ∃ (sign : Sign) (body : List Char),
      cs = sign.text ++ body ∧ cutSign cs = (sign.isMinus, body) := by
  obtain ⟨sign, body, rfl, leads⟩ := exists_leads cs
  exact ⟨sign, body, rfl, cutSign_leads leads⟩

theorem cutSign_text (sign : Sign) {body : List Char}
    (unsigned : ∀ c ∈ body.head?, c ≠ '-' ∧ c ≠ '+') :
    cutSign (sign.text ++ body) = (sign.isMinus, body) :=
  cutSign_leads fun _ => unsigned

/-- Only a negative duration may have the greatest magnitude. -/
theorem le_limit_iff (sign : Sign) (amount : Nat) :
    amount ≤ sign.limit ↔
      amount ≤ greatestMagnitude ∧ (sign.isMinus = false → amount ≠ greatestMagnitude) := by
  cases sign <;> simp only [limit, isMinus, greatestMagnitude] <;> simp <;> omega

end Sign

theorem readBody_zero (sign : Sign) : readBody sign.isMinus ['0'] = .ok (sign.apply 0) := by
  rw [readBody, if_pos rfl]
  cases sign <;> rfl

theorem readBody_of_sum (sign : Sign) {body : List Char} {amount : Nat} (notZero : body ≠ ['0'])
    (given : body ≠ []) (summed : sumSegments body 0 = .ok amount) :
    readBody sign.isMinus body =
      if sign.isMinus = false ∧ amount = greatestMagnitude then .error .overflow
      else .ok (sign.apply amount) := by
  rw [readBody, if_neg notZero, if_neg given, summed]
  cases sign <;> simp [Sign.isMinus, Sign.apply]

theorem readBody_of_amounts (sign : Sign) {body : List Char} {amount : Nat}
    (stands : BodyAmounts body amount) :
    readBody sign.isMinus body =
      if amount ≤ sign.limit then .ok (sign.apply amount) else .error .overflow := by
  rcases stands.sum with ⟨rfl, rfl⟩ | ⟨notZero, given, reads⟩
  · rw [readBody_zero, if_pos (Nat.zero_le _)]
  · have sum := reads.sumSegments_eq (Nat.zero_le greatestMagnitude)
    rw [Nat.zero_add] at sum
    by_cases far : greatestMagnitude < amount
    · rw [if_pos far] at sum
      rw [if_neg fun inside => Nat.not_le.mpr far ((sign.le_limit_iff amount).mp inside).1,
        readBody, if_neg notZero, if_neg given, sum]
    · rw [if_neg far] at sum
      rw [readBody_of_sum sign notZero given sum]
      by_cases greatest : sign.isMinus = false ∧ amount = greatestMagnitude
      · rw [if_pos greatest, if_neg fun inside =>
          ((sign.le_limit_iff amount).mp inside).2 greatest.1 greatest.2]
      · have inside : amount ≤ sign.limit := (sign.le_limit_iff amount).mpr
          ⟨Nat.le_of_not_lt far, fun plain same => greatest ⟨plain, same⟩⟩
        rw [if_neg greatest, if_pos inside]

theorem amounts_of_readBody {sign : Sign} {body : List Char} {duration : Duration}
    (reads : readBody sign.isMinus body = .ok duration) :
    ∃ amount, BodyAmounts body amount := by
  by_cases zero : body = ['0']
  · exact ⟨0, zero ▸ .zero⟩
  · by_cases empty : body = []
    · rw [readBody, if_neg zero, if_pos empty] at reads
      cases reads
    · rw [readBody, if_neg zero, if_neg empty] at reads
      split at reads
      · cases reads
      case h_2 total summed =>
        obtain ⟨amount, made, -⟩ := reads_of_sumSegments summed
        exact ⟨amount, .of_reads empty made⟩

theorem read_of_cutSign {text : String} {sign : Sign} {body : List Char}
    (cut : cutSign text.toList = (sign.isMinus, body)) :
    read text = (readBody sign.isMinus body).mapError (⟨·, text⟩) := by
  rw [read, cut]

theorem read_of_amounts {text : String} (sign : Sign) {body : List Char} {amount : Nat}
    (parts : text.toList = sign.text ++ body) (stands : BodyAmounts body amount) :
    read text =
      if amount ≤ sign.limit then .ok (sign.apply amount) else .error ⟨.overflow, text⟩ := by
  have cut := sign.cutSign_text stands.head_ne_sign
  rw [← parts] at cut
  rw [read_of_cutSign cut, readBody_of_amounts sign stands]
  by_cases inside : amount ≤ sign.limit
  · rw [if_pos inside, if_pos inside]
    rfl
  · rw [if_neg inside, if_neg inside]
    rfl

theorem exists_amounts_of_read {text : String} {duration : Duration}
    (reads : read text = .ok duration) :
    ∃ (sign : Sign) (body : List Char) (amount : Nat), text.toList = sign.text ++ body ∧
      BodyAmounts body amount ∧ amount ≤ sign.limit ∧ duration = sign.apply amount := by
  obtain ⟨sign, body, parts, cut⟩ := Sign.exists_text text.toList
  have inner := reads
  rw [read_of_cutSign cut, mapError_eq_ok] at inner
  obtain ⟨amount, stands⟩ := amounts_of_readBody inner
  rw [read_of_amounts sign parts stands] at reads
  split at reads
  case isTrue inside =>
    cases reads
    exact ⟨sign, body, amount, parts, stands, inside, rfl⟩
  · cases reads

/-- A text is read exactly if it is a sign and a body that stands for an amount in the range of the
sign. No such text is found out of range before its whole amount is, and words of 128 bits find in
every text what numbers of any size find. -/
theorem read_exactly_written (text : String) :
    (∀ duration, read text = .ok duration ↔
      ∃ (sign : Sign) (body : List Char) (amount : Nat), text.toList = sign.text ++ body ∧
        BodyAmounts body amount ∧ amount ≤ sign.limit ∧ duration = sign.apply amount) ∧
    (∀ (sign : Sign) (body : List Char) (amount : Nat), text.toList = sign.text ++ body →
      BodyAmounts body amount → read text =
        if amount ≤ sign.limit then .ok (sign.apply amount) else .error ⟨.overflow, text⟩) ∧
    readInWords text = read text := by
  refine ⟨fun duration => ⟨exists_amounts_of_read, ?_⟩, ?_, readInWords_eq text⟩
  · rintro ⟨sign, body, amount, parts, stands, inside, rfl⟩
    rw [read_of_amounts sign parts stands, if_pos inside]
  · intro sign body amount parts stands
    exact read_of_amounts sign parts stands

theorem read_exactly_written_at_limits :
    read "+1.5h.25s" = .ok ⟨5400250000000⟩ ∧
      read "9223372036854775808ns" = .error ⟨.overflow, "9223372036854775808ns"⟩ ∧
      read "-9223372036854775808ns" = .ok ⟨-9223372036854775808⟩ := by
  have fractions : BodyAmounts "1.5h.25s".toList 5400250000000 := by
    have written := BodyAmounts.segments
      [⟨['1'], some ['5'], .hour, ['h'], List.all_eq_true.mp rfl, isDigit_of_mem_some rfl,
          by decide, by decide⟩,
        ⟨[], some ['2', '5'], .second, ['s'], List.all_eq_true.mp rfl, isDigit_of_mem_some rfl,
          by decide, by decide⟩]
      (List.cons_ne_nil _ _)
    exact written
  have greatest : BodyAmounts "9223372036854775808ns".toList 9223372036854775808 := by
    have written := BodyAmounts.segments
      [⟨"9223372036854775808".toList, none, .nanosecond, ['n', 's'], List.all_eq_true.mp rfl,
        (fun _ absent => nomatch absent), by decide, by decide⟩] (List.cons_ne_nil _ _)
    exact written
  have hours := (read_exactly_written "+1.5h.25s").2.1 .plus _ _ (by rfl) fractions
  have beyond := (read_exactly_written "9223372036854775808ns").2.1 .none _ _ (by rfl) greatest
  have least := (read_exactly_written "-9223372036854775808ns").2.1 .minus _ _ (by rfl) greatest
  rw [if_pos (by decide)] at hours least
  rw [if_neg (by decide)] at beyond
  exact ⟨hours, beyond, least⟩

end Duration

end FederationConfig
