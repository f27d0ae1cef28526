import FederationConfig.Proofs.Duration.Grammar

/-!
Why a text is no duration. Everything in front of the leftmost problem is well written and in range,
and the error is the one of that problem.
-/

namespace FederationConfig.Duration

open Text (Stops stops_dropWhile takeWhile_eq_nil_iff takeWhile_append_stops)

/-- What is wrong with the segment at the front of a text, behind segments of a total. -/
inductive Problem (total : Nat) : List Char → Fault → Prop where
  | noDigit {cs : List Char} (given : cs ≠ []) (before : Stops Char.isDigit cs)
      (behind : ∀ rest, cs = '.' :: rest → Stops Char.isDigit rest) : Problem total cs .invalid
  | noUnit (number : WrittenNumber) {rest : List Char} (ends : number.Ends rest)
      (bare : rest = [] ∨ rest.head? = some '.') : Problem total (number.text ++ rest) .missingUnit
  | unknownUnit (number : WrittenNumber) {name rest : List Char} (given : name ≠ [])
      (unitChars : ∀ c ∈ name, isUnitChar c) (stops : Stops isUnitChar rest)
      (unknown : ∀ unit : TimeUnit, name ∉ unit.spellings) :
      Problem total (number.text ++ (name ++ rest)) (.unknownUnit name)
  | outOfRange (written : WrittenSegment) {rest : List Char} (stops : Stops isUnitChar rest)
      (far : 2 ^ 63 < total + written.amount) : Problem total (written.text ++ rest) .overflow

/-- Why nothing is read behind a sign. Segments in front of the failing one are well written, with
a total in range; only a positive duration can fail behind the last one. -/
inductive Sign.Fails (sign : Sign) : List Char → Fault → Prop where
  | empty : Fails sign [] .invalid
  | segment (segments : List WrittenSegment) {rest : List Char} {fault : Fault}
      (inside : segmentsAmount segments ≤ 2 ^ 63)
      (ends : segments ≠ [] → Stops isUnitChar rest)
      (problem : Problem (segmentsAmount segments) rest fault) :
      Fails sign (segmentsText segments ++ rest) fault
  | greatest (segments : List WrittenSegment) (positive : sign ≠ .minus)
      (total : segmentsAmount segments = 2 ^ 63) : Fails sign (segmentsText segments) .overflow

variable {total : Nat} {cs : List Char} {fault : Fault}

theorem Problem.sumSegments_eq (problem : Problem total cs fault) :
    sumSegments cs total = .error fault := by
  cases problem with
  | noDigit given before behind =>
      apply sumSegments_of_fault given
      rw [Segment.amount, if_pos (Segment.no_digits_iff.mpr ⟨before, behind⟩)]
  | @noUnit number rest ends bare =>
      have bareUnit : rest.takeWhile isUnitChar = [] := by
        rcases bare with rfl | point
        · rfl
        · obtain ⟨behind, rfl⟩ := List.head?_eq_some_iff.mp point
          rfl
      have cut := number.cut_text ends
      rw [bareUnit] at cut
      have failed : (Segment.cut (number.text ++ rest)).1.amount = .error .missingUnit := by
        rw [cut, Segment.amount, if_neg number.not_empty, if_pos rfl]
      exact sumSegments_of_fault (number.text_append_ne_nil _) failed total
  | @unknownUnit number name rest given unitChars stops unknown =>
      have cut := number.cut_text (number.ends_of_name given unitChars rest)
      rw [takeWhile_append_stops unitChars stops] at cut
      have none : TimeUnit.ofName? name = none := by
        cases named : TimeUnit.ofName? name with
        | none => rfl
        | some unit => exact absurd (TimeUnit.mem_spellings_of_ofName? named) (unknown unit)
      have failed : (Segment.cut (number.text ++ (name ++ rest))).1.amount =
          .error (.unknownUnit name) := by
        rw [cut, Segment.amount, if_neg number.not_empty, if_neg given, none]
      exact sumSegments_of_fault (number.text_append_ne_nil _) failed total
  | @outOfRange written rest stops far =>
      have known : (Segment.cut (written.text ++ rest)).1.amount = .ok written.amount := by
        rw [written.cut_text stops]
        exact written.known
      rw [sumSegments_cut known]
      exact if_pos far

theorem bare_of_ends {number : WrittenNumber} {rest : List Char} (ends : number.Ends rest)
    (stops : Stops isUnitChar rest) : rest = [] ∨ rest.head? = some '.' := by
  cases rest with
  | nil => exact .inl rfl
  | cons c rest =>
      have digit := ends.noDigit c rfl
      have unit := stops c rfl
      rw [isUnitChar, digit, Bool.not_false, Bool.and_true, bne_eq_false_iff_eq] at unit
      rw [unit]
      exact .inr rfl

theorem problem_of_amount (total : Nat) (given : cs ≠ [])
    (failed : (Segment.cut cs).1.amount = .error fault) : Problem total cs fault := by
  by_cases digits : (Segment.cut cs).1.whole = [] ∧ (Segment.cut cs).1.fraction = []
  · rw [Segment.amount, if_pos digits] at failed
    cases failed
    obtain ⟨before, behind⟩ := Segment.no_digits_iff.mp digits
    exact .noDigit given before behind
  · obtain ⟨number, rest, rfl, ends⟩ := Segment.exists_number cs digits
    have parts := List.takeWhile_append_dropWhile (p := isUnitChar) (l := rest)
    rw [number.cut_text ends, Segment.amount, if_neg number.not_empty] at failed
    by_cases none : rest.takeWhile isUnitChar = []
    · rw [if_pos none] at failed
      cases failed
      exact .noUnit number ends (bare_of_ends ends (takeWhile_eq_nil_iff.mp none))
    · rw [if_neg none] at failed
      cases named : TimeUnit.ofName? (rest.takeWhile isUnitChar) with
      | some unit =>
          rw [named] at failed
          cases failed
      | none =>
          rw [named] at failed
          cases failed
          have unknown (unit : TimeUnit) : rest.takeWhile isUnitChar ∉ unit.spellings := by
            intro spelled
            rw [TimeUnit.ofName?_of_mem_spellings spelled] at named
            cases named
          have unitChars : ∀ c ∈ rest.takeWhile isUnitChar, isUnitChar c :=
            fun _ member => List.mem_takeWhile_imp member
          have stops := stops_dropWhile isUnitChar rest
          have problem : Problem total (number.text ++ (rest.takeWhile isUnitChar ++
              rest.dropWhile isUnitChar)) (.unknownUnit (rest.takeWhile isUnitChar)) :=
            .unknownUnit number none unitChars stops unknown
          rwa [parts] at problem

theorem Segment.cut_eq (cs : List Char) :
    Segment.cut cs = ((Segment.cut cs).1, (Segment.cut cs).2) :=
  rfl

theorem Segment.stops_cut (cs : List Char) : Stops isUnitChar (Segment.cut cs).2 :=
  stops_dropWhile isUnitChar _

theorem exists_problem (start : total ≤ 2 ^ 63) (failed : sumSegments cs total = .error fault) :
    ∃ (segments : List WrittenSegment) (rest : List Char),
      cs = segmentsText segments ++ rest ∧ total + segmentsAmount segments ≤ 2 ^ 63 ∧
        (segments ≠ [] → Stops isUnitChar rest) ∧
        Problem (total + segmentsAmount segments) rest fault := by
  -- Along the sum: the segments with an amount stand in front of the problem.
  fun_induction sumSegments cs total with
  | case1 => cases failed
  | case2 cs total given fault known =>
      cases failed
      exact ⟨[], cs, rfl, start, fun some => absurd rfl some, problem_of_amount total given known⟩
  | case3 cs total given amount known far =>
      cases failed
      obtain ⟨written, text, rfl⟩ := Segment.exists_written (Segment.cut_eq cs) known
      have problem := Problem.outOfRange written (Segment.stops_cut cs) far
      rw [← text] at problem
      exact ⟨[], cs, rfl, start, fun some => absurd rfl some, problem⟩
  | case4 cs total given amount known inside ih =>
      obtain ⟨written, text, rfl⟩ := Segment.exists_written (Segment.cut_eq cs) known
      obtain ⟨segments, rest, same, within, ends, problem⟩ := ih (Nat.le_of_not_lt inside) failed
      rw [Nat.add_assoc] at within problem
      refine ⟨written :: segments, rest, ?_, within, ?_, problem⟩
      · rw [text, same]
        exact (List.append_assoc ..).symm
      · intro _
        cases segments with
        | nil =>
            rw [← show (Segment.cut cs).2 = rest from same]
            exact Segment.stops_cut cs
        | cons second others => exact ends (List.cons_ne_nil second others)

theorem sumSegments_segmentsText_append (segments : List WrittenSegment) {rest : List Char}
    (inside : total + segmentsAmount segments ≤ 2 ^ 63)
    (ends : segments ≠ [] → Stops isUnitChar rest) :
    sumSegments (segmentsText segments ++ rest) total =
      sumSegments rest (total + segmentsAmount segments) := by
  induction segments generalizing total with
  | nil => rfl
  | cons written others ih =>
      have stops : Stops isUnitChar (segmentsText others ++ rest) := by
        cases others with
        | nil => exact ends (List.cons_ne_nil written [])
        | cons second others =>
            rw [segmentsText, List.flatMap_cons, List.append_assoc]
            exact second.stops_text _
      have cut := written.cut_text stops
      have known : (Segment.cut (written.text ++ (segmentsText others ++ rest))).1.amount =
          .ok written.amount := by
        rw [cut]
        exact written.known
      rw [segmentsAmount, ← Nat.add_assoc] at inside
      have first : ¬ greatestMagnitude < total + written.amount :=
        Nat.not_lt.mpr (Nat.le_trans (Nat.le_add_right _ _) inside)
      rw [segmentsText, List.flatMap_cons, List.append_assoc, ← segmentsText,
        sumSegments_cut known, if_neg first, cut, segmentsAmount, ← Nat.add_assoc]
      exact ih inside fun _ => ends (List.cons_ne_nil written others)

theorem sumSegments_segmentsText {segments : List WrittenSegment}
    (inside : segmentsAmount segments ≤ 2 ^ 63) :
    sumSegments (segmentsText segments) 0 = .ok (segmentsAmount segments) := by
  have sum := (reads_segmentsText segments).sumSegments_eq (Nat.zero_le greatestMagnitude)
  rw [Nat.zero_add] at sum
  exact sum.trans (if_neg (Nat.not_lt.mpr inside))

theorem Problem.text_ne_nil (problem : Problem total cs fault) : cs ≠ [] := by
  rintro rfl
  have failed := problem.sumSegments_eq
  rw [sumSegments_nil] at failed
  cases failed

variable {sign : Sign} {body : List Char}

theorem Sign.Fails.readBody_eq (fails : sign.Fails body fault) (notZero : body ≠ ['0']) :
    readBody sign.isMinus body = .error fault := by
  cases fails with
  | empty => rfl
  | @segment segments rest fault inside ends problem =>
      have given : segmentsText segments ++ rest ≠ [] :=
        List.append_ne_nil_of_right_ne_nil _ problem.text_ne_nil
      have start : 0 + segmentsAmount segments ≤ 2 ^ 63 := by rwa [Nat.zero_add]
      have sum := sumSegments_segmentsText_append segments start ends
      rw [Nat.zero_add, problem.sumSegments_eq] at sum
      rw [readBody, if_neg notZero, if_neg given, sum]
  | greatest segments positive total =>
      have sum := sumSegments_segmentsText (Nat.le_of_eq total)
      have given : segmentsText segments ≠ [] := by
        apply segmentsText_ne_nil
        rintro rfl
        cases total
      have plain : sign.isMinus = false := by
        cases sign with
        | minus => exact absurd rfl positive
        | none => rfl
        | plus => rfl
      rw [readBody_of_sum sign notZero given sum, if_pos ⟨plain, total⟩]

theorem Sign.fails_of_readBody (failed : readBody sign.isMinus body = .error fault) :
    body ≠ ['0'] ∧ sign.Fails body fault := by
  have notZero : body ≠ ['0'] := by
    rintro rfl
    rw [readBody_zero] at failed
    cases failed
  refine ⟨notZero, ?_⟩
  by_cases given : body = []
  · rw [readBody, if_neg notZero, if_pos given] at failed
    cases failed
    exact given ▸ .empty
  · cases summed : sumSegments body 0 with
    | error cause =>
        rw [readBody, if_neg notZero, if_neg given, summed] at failed
        cases failed
        obtain ⟨segments, rest, rfl, inside, ends, problem⟩ :=
          exists_problem (Nat.zero_le _) summed
        rw [Nat.zero_add] at inside problem
        exact .segment segments inside ends problem
    | ok sum =>
        obtain ⟨amount, reads, rfl⟩ := reads_of_sumSegments summed
        obtain ⟨segments, rfl, rfl⟩ := exists_segments_of_reads reads
        rw [readBody_of_sum sign notZero given summed] at failed
        split at failed
        case isTrue greatest =>
          cases failed
          rw [Nat.zero_add] at greatest
          refine .greatest segments ?_ greatest.2
          rintro rfl
          cases greatest.1
        case isFalse => cases failed

/-- A text that is no duration fails by the leftmost problem behind its sign, and its error says
which one. -/
theorem read_fails_leftmost (text : String) (error : ReadError) :
    read text = .error error ↔
      error.text = text ∧ ∃ (sign : Sign) (body : List Char), text.toList = sign.text ++ body ∧
        sign.Leads body ∧ body ≠ ['0'] ∧ sign.Fails body error.fault := by
  constructor
  · intro failed
    obtain ⟨sign, body, parts, leads⟩ := Sign.exists_leads text.toList
    have cut := Sign.cutSign_leads leads
    rw [← parts] at cut
    rw [read_of_cutSign cut, mapError_eq_error] at failed
    obtain ⟨fault, failed, rfl⟩ := failed
    exact ⟨rfl, sign, body, parts, leads, Sign.fails_of_readBody failed⟩
  · rintro ⟨rfl, sign, body, parts, leads, notZero, fails⟩
    have cut := Sign.cutSign_leads leads
    rw [← parts] at cut
    rw [read_of_cutSign cut, fails.readBody_eq notZero]
    rfl

example : read "-1s99999999999999999999x" =
    .error ⟨.unknownUnit ['x'], "-1s99999999999999999999x"⟩ := by
  cbv

end FederationConfig.Duration
