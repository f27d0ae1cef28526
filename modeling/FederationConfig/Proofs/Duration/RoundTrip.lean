import FederationConfig.Proofs.Duration.Digits
import FederationConfig.Proofs.Duration.Segment
import FederationConfig.Proofs.Outcome
import FederationConfig.Proofs.Text.Basic

namespace FederationConfig

def TimeUnit.name : TimeUnit → List Char
  | nanosecond => ['n', 's']
  | microsecond => ['\u00b5', 's']
  | millisecond => ['m', 's']
  | second => ['s']
  | minute => ['m']
  | hour => ['h']

theorem TimeUnit.ofName?_name (unit : TimeUnit) : ofName? unit.name = some unit := by
  cases unit <;> rfl

theorem TimeUnit.name_ne_nil (unit : TimeUnit) : unit.name ≠ [] := by
  cases unit <;> exact List.cons_ne_nil _ _

namespace Duration

open Text (Stops stops_nil isDigit_of_mem_toDigits)

theorem isUnitChar_of_mem_name (unit : TimeUnit) : ∀ c ∈ unit.name, isUnitChar c := by
  cases unit <;> exact List.all_eq_true.mp rfl

theorem Segment.amount_of_unit {whole fraction : List Char} (given : whole ≠ [])
    (unit : TimeUnit) :
    Segment.amount ⟨whole, fraction, unit.name⟩ =
      .ok (digitsValue whole * unit.nanoseconds + fractionNanoseconds fraction unit) := by
  rw [amount, if_neg (fun none => given none.1), if_neg unit.name_ne_nil, unit.ofName?_name]
  rfl

theorem fractionNanoseconds_nil (unit : TimeUnit) : fractionNanoseconds [] unit = 0 := by
  rw [fractionNanoseconds, List.take_nil]
  show 0 * unit.nanoseconds / 10 ^ 0 = 0
  rw [Nat.zero_mul, Nat.zero_div]

theorem reads_count (unit : TimeUnit) (count : Nat) {rest : List Char} {later : Nat}
    (stops : Stops isUnitChar rest) (reads : Reads rest later) :
    Reads (Nat.toDigits 10 count ++ (unit.name ++ rest)) (count * unit.nanoseconds + later) := by
  have pointed : IsPoint [] [] := .inr ⟨rfl, rfl⟩
  have cut := Segment.cut_append (isDigit_of_mem_toDigits count) pointed
    (fun _ member => nomatch member) unit.name_ne_nil (isUnitChar_of_mem_name unit) stops
  refine .segment cut ?_ reads
  rw [Segment.amount_of_unit Nat.toDigits_ne_nil, digitsValue_toDigits, fractionNanoseconds_nil,
    Nat.add_zero]

theorem reads_scaled (unit : TimeUnit) {width : Nat} (scale : unit.nanoseconds = 10 ^ width)
    (narrow : width ≤ fractionPlaces) (value : Nat) :
    Reads (renderScaled value width ++ unit.name) value := by
  have parts := Nat.div_add_mod' value (10 ^ width)
  by_cases round : value % 10 ^ width = 0
  · rw [round, Nat.add_zero] at parts
    have count := reads_count unit (value / 10 ^ width) (stops_nil isUnitChar) Reads.none
    rw [scale, parts, List.append_nil, Nat.add_zero] at count
    simpa only [renderScaled, if_pos round] using count
  · have inside : value % 10 ^ width < 10 ^ width := Nat.mod_lt _ (Nat.pow_pos (by decide))
    have pointed : IsPoint ['.'] (fractionDigits width (value % 10 ^ width)) := .inl rfl
    have cut := Segment.cut_append (isDigit_of_mem_toDigits (value / 10 ^ width)) pointed
      (isDigit_of_mem_fractionDigits width (value % 10 ^ width)) unit.name_ne_nil
      (isUnitChar_of_mem_name unit) (stops_nil isUnitChar)
    have text : renderScaled value width ++ unit.name =
        Nat.toDigits 10 (value / 10 ^ width) ++
          (['.'] ++ fractionDigits width (value % 10 ^ width) ++ (unit.name ++ [])) := by
      simp only [renderScaled, if_neg round, List.append_assoc, List.cons_append,
        List.nil_append, List.append_nil]
    have known : Segment.amount ⟨Nat.toDigits 10 (value / 10 ^ width),
        fractionDigits width (value % 10 ^ width), unit.name⟩ = .ok value := by
      rw [Segment.amount_of_unit Nat.toDigits_ne_nil, digitsValue_toDigits,
        fractionNanoseconds_fractionDigits scale narrow inside, scale, parts]
    rw [text]
    exact .segment cut known Reads.none

def BeginsWithDigit (cs : List Char) : Prop := ∃ c rest, cs = c :: rest ∧ c.isDigit

theorem beginsWithDigit_toDigits (n : Nat) (tail : List Char) :
    BeginsWithDigit (Nat.toDigits 10 n ++ tail) := by
  obtain ⟨c, rest, text⟩ := List.exists_cons_of_ne_nil (Nat.toDigits_ne_nil (n := n) (b := 10))
  have digit := isDigit_of_mem_toDigits n c (text ▸ List.mem_cons_self)
  exact ⟨c, rest ++ tail, by rw [text, List.cons_append], digit⟩

theorem beginsWithDigit_renderScaled (value width : Nat) (tail : List Char) :
    BeginsWithDigit (renderScaled value width ++ tail) := by
  simp only [renderScaled]
  split
  · exact beginsWithDigit_toDigits _ tail
  · rw [List.append_assoc]
    exact beginsWithDigit_toDigits _ _

theorem BeginsWithDigit.stops {cs : List Char} (digit : BeginsWithDigit cs) :
    Stops isUnitChar cs := by
  obtain ⟨c, rest, rfl, digit⟩ := digit
  intro head found
  cases found
  simp [isUnitChar, digit]

def secondsText (magnitude : Nat) : List Char :=
  renderScaled (magnitude % TimeUnit.minute.nanoseconds) 9 ++ TimeUnit.second.name

def minutesText (magnitude : Nat) : List Char :=
  Nat.toDigits 10 (magnitude % TimeUnit.hour.nanoseconds / TimeUnit.minute.nanoseconds) ++
    (TimeUnit.minute.name ++ secondsText magnitude)

def hoursText (magnitude : Nat) : List Char :=
  Nat.toDigits 10 (magnitude / TimeUnit.hour.nanoseconds) ++
    (TimeUnit.hour.name ++ minutesText magnitude)

theorem renderFromSecond_eq (magnitude : Nat) :
    renderFromSecond magnitude =
      if 0 < magnitude / TimeUnit.hour.nanoseconds then hoursText magnitude
      else if 0 < magnitude % TimeUnit.hour.nanoseconds / TimeUnit.minute.nanoseconds then
        minutesText magnitude
      else secondsText magnitude := by
  by_cases hours : 0 < magnitude / TimeUnit.hour.nanoseconds
  · simp only [renderFromSecond, hours, if_true, true_or, hoursText, minutesText, secondsText,
      TimeUnit.name, List.append_assoc]
  · by_cases minutes : 0 < magnitude % TimeUnit.hour.nanoseconds / TimeUnit.minute.nanoseconds
    · simp only [renderFromSecond, hours, minutes, if_true, if_false, or_true, minutesText,
        secondsText, TimeUnit.name, List.append_assoc, List.nil_append]
    · simp only [renderFromSecond, hours, minutes, if_false, or_false, secondsText,
        TimeUnit.name, List.nil_append]

theorem reads_secondsText (magnitude : Nat) :
    Reads (secondsText magnitude) (magnitude % TimeUnit.minute.nanoseconds) :=
  reads_scaled .second (by decide) (by decide) _

theorem reads_minutesText (magnitude : Nat) :
    Reads (minutesText magnitude) (magnitude % TimeUnit.hour.nanoseconds) := by
  have reads := reads_count .minute
    (magnitude % TimeUnit.hour.nanoseconds / TimeUnit.minute.nanoseconds)
    (beginsWithDigit_renderScaled _ 9 _).stops (reads_secondsText magnitude)
  have nested : magnitude % TimeUnit.minute.nanoseconds =
      magnitude % TimeUnit.hour.nanoseconds % TimeUnit.minute.nanoseconds :=
    (Nat.mod_mod_of_dvd magnitude (Nat.dvd_mul_left _ 60)).symm
  have parts := Nat.div_add_mod' (magnitude % TimeUnit.hour.nanoseconds)
    TimeUnit.minute.nanoseconds
  rw [← nested] at parts
  rwa [parts] at reads

theorem reads_hoursText (magnitude : Nat) : Reads (hoursText magnitude) magnitude := by
  have reads := reads_count .hour (magnitude / TimeUnit.hour.nanoseconds)
    (beginsWithDigit_toDigits _ _).stops (reads_minutesText magnitude)
  rwa [Nat.div_add_mod'] at reads

theorem reads_renderFromSecond (magnitude : Nat) :
    Reads (renderFromSecond magnitude) magnitude := by
  have minutes := reads_minutesText magnitude
  have seconds := reads_secondsText magnitude
  rw [renderFromSecond_eq]
  split
  · exact reads_hoursText magnitude
  case isFalse noHours =>
    have belowHour : magnitude % TimeUnit.hour.nanoseconds = magnitude :=
      Nat.mod_eq_of_lt (Nat.lt_of_div_eq_zero (TimeUnit.nanoseconds_pos _)
        (Nat.eq_zero_of_not_pos noHours))
    rw [belowHour] at minutes
    split
    · exact minutes
    case isFalse noMinutes =>
      rw [belowHour] at noMinutes
      have belowMinute : magnitude % TimeUnit.minute.nanoseconds = magnitude :=
        Nat.mod_eq_of_lt (Nat.lt_of_div_eq_zero (TimeUnit.nanoseconds_pos _)
          (Nat.eq_zero_of_not_pos noMinutes))
      rwa [belowMinute] at seconds

theorem reads_renderMagnitude (magnitude : Nat) : Reads (renderMagnitude magnitude) magnitude := by
  rw [renderMagnitude]
  split
  case isTrue none =>
    subst none
    exact reads_count .second 0 (stops_nil isUnitChar) Reads.none
  case isFalse =>
    split
    · rw [renderBelowSecond]
      split
      · exact reads_scaled .nanosecond (by decide) (by decide) magnitude
      · split
        · exact reads_scaled .microsecond (by decide) (by decide) magnitude
        · exact reads_scaled .millisecond (by decide) (by decide) magnitude
    · exact reads_renderFromSecond magnitude

theorem beginsWithDigit_renderMagnitude (magnitude : Nat) :
    BeginsWithDigit (renderMagnitude magnitude) := by
  rw [renderMagnitude]
  split
  · exact ⟨'0', ['s'], rfl, rfl⟩
  · split
    · rw [renderBelowSecond]
      split
      · exact beginsWithDigit_renderScaled magnitude 0 _
      · split
        · exact beginsWithDigit_renderScaled magnitude 3 _
        · exact beginsWithDigit_renderScaled magnitude 6 _
    · rw [renderFromSecond_eq]
      split
      · exact beginsWithDigit_toDigits _ _
      · split
        · exact beginsWithDigit_toDigits _ _
        · exact beginsWithDigit_renderScaled _ 9 _

theorem renderMagnitude_eq_append (magnitude : Nat) :
    ∃ front, renderMagnitude magnitude = front ++ ['s'] := by
  rw [renderMagnitude]
  split
  · exact ⟨['0'], rfl⟩
  · split
    · rw [renderBelowSecond]
      split
      · exact ⟨renderScaled magnitude 0 ++ ['n'], by rw [List.append_assoc]; rfl⟩
      · split
        · exact ⟨renderScaled magnitude 3 ++ ['\u00b5'], by rw [List.append_assoc]; rfl⟩
        · exact ⟨renderScaled magnitude 6 ++ ['m'], by rw [List.append_assoc]; rfl⟩
    · rw [renderFromSecond]
      exact ⟨_, rfl⟩

/-- Whether a duration is a signed number of nanoseconds in 64 bits. -/
def Fits (duration : Duration) : Prop :=
  -2 ^ 63 ≤ duration.nanoseconds ∧ duration.nanoseconds < 2 ^ 63

instance (duration : Duration) : Decidable duration.Fits :=
  inferInstanceAs (Decidable (_ ∧ _))

theorem readBody_renderMagnitude (negative : Bool) (magnitude : Nat) :
    readBody negative (renderMagnitude magnitude) =
      if greatestMagnitude < magnitude then .error .overflow
      else if negative then .ok ⟨-(magnitude : Int)⟩
      else if magnitude = greatestMagnitude then .error .overflow
      else .ok ⟨magnitude⟩ := by
  obtain ⟨front, stop⟩ := renderMagnitude_eq_append magnitude
  -- The lone zero that needs no unit is never written.
  have notZero : renderMagnitude magnitude ≠ ['0'] := by
    rw [stop]
    intro same
    have last := congrArg List.getLast? same
    rw [List.getLast?_concat] at last
    cases last
  have text : renderMagnitude magnitude ≠ [] := by
    rw [stop]
    exact List.concat_ne_nil _ _
  have sum := (reads_renderMagnitude magnitude).sumSegments_eq (Nat.zero_le greatestMagnitude)
  rw [Nat.zero_add] at sum
  rw [readBody, if_neg notZero, if_neg text, sum]
  by_cases far : greatestMagnitude < magnitude
  · rw [if_pos far, if_pos far]
  · rw [if_neg far, if_neg far]

theorem cutSign_of_beginsWithDigit {cs : List Char} (digit : BeginsWithDigit cs) :
    cutSign cs = (false, cs) := by
  obtain ⟨c, rest, rfl, digit⟩ := digit
  rw [cutSign]
  · rintro tail same
    cases same
    cases digit
  · rintro tail same
    cases same
    cases digit

theorem cutSign_render (duration : Duration) :
    cutSign duration.render.toList =
      (decide (duration.nanoseconds < 0), renderMagnitude duration.nanoseconds.natAbs) := by
  rw [render, String.toList_ofList]
  by_cases negative : duration.nanoseconds < 0
  · rw [if_pos negative, decide_eq_true negative]
    rfl
  · rw [if_neg negative, decide_eq_false negative, List.nil_append]
    exact cutSign_of_beginsWithDigit (beginsWithDigit_renderMagnitude _)

theorem render_inj {first second : Duration} (same : first.render = second.render) :
    first = second := by
  have cuts := cutSign_render first
  rw [same, cutSign_render second] at cuts
  obtain ⟨signs, magnitudes⟩ := Prod.mk.inj cuts
  have reads := reads_renderMagnitude first.nanoseconds.natAbs
  rw [← magnitudes] at reads
  have sizes := reads.unique (reads_renderMagnitude second.nanoseconds.natAbs)
  have sign : second.nanoseconds < 0 ↔ first.nanoseconds < 0 := decide_eq_decide.mp signs
  have equal : first.nanoseconds = second.nanoseconds := by omega
  exact congrArg mk equal

theorem read_render (duration : Duration) :
    read duration.render =
      if duration.Fits then .ok duration else .error ⟨.overflow, duration.render⟩ := by
  obtain ⟨nanoseconds⟩ := duration
  rw [read, cutSign_render]
  dsimp only
  rw [readBody_renderMagnitude]
  by_cases negative : nanoseconds < 0
  · have size : -(nanoseconds.natAbs : Int) = nanoseconds := by omega
    rw [decide_eq_true negative, if_pos rfl, size]
    by_cases far : greatestMagnitude < nanoseconds.natAbs
    · have outside : ¬ Fits ⟨nanoseconds⟩ := by simp only [Fits, greatestMagnitude] at *; omega
      rw [if_pos far, if_neg outside]
      rfl
    · have inside : Fits ⟨nanoseconds⟩ := by simp only [Fits, greatestMagnitude] at *; omega
      rw [if_neg far, if_pos inside]
      rfl
  · have size : (nanoseconds.natAbs : Int) = nanoseconds := by omega
    rw [decide_eq_false negative, if_neg Bool.false_ne_true, size]
    by_cases inside : Fits ⟨nanoseconds⟩
    · have near : ¬ greatestMagnitude < nanoseconds.natAbs ∧
          nanoseconds.natAbs ≠ greatestMagnitude := by
        simp only [Fits, greatestMagnitude] at *; omega
      rw [if_neg near.1, if_neg near.2, if_pos inside]
      rfl
    · have far : greatestMagnitude < nanoseconds.natAbs ∨
          nanoseconds.natAbs = greatestMagnitude := by
        simp only [Fits, greatestMagnitude] at *; omega
      rw [if_neg inside]
      rcases far with far | far
      · rw [if_pos far]
        rfl
      · rw [far, if_neg (Nat.lt_irrefl _), if_pos rfl]
        rfl

theorem fits_of_readBody {negative : Bool} {body : List Char} {duration : Duration}
    (reads : readBody negative body = .ok duration) : duration.Fits := by
  rw [readBody] at reads
  split at reads
  · cases reads
    decide
  · split at reads
    · cases reads
    · split at reads
      · cases reads
      case h_2 total summed =>
        have bound := sumSegments_le (Nat.zero_le _) summed
        split at reads
        · cases reads
          simp only [Fits, greatestMagnitude] at *
          omega
        · split at reads
          · cases reads
          case isFalse differs =>
            cases reads
            simp only [Fits, greatestMagnitude] at *
            omega

theorem fits_of_read {text : String} {duration : Duration} (reads : read text = .ok duration) :
    duration.Fits :=
  fits_of_readBody (mapError_eq_ok.mp reads)

/-- A signed number of nanoseconds in 64 bits is read back from its text, so that no two of them
have the same, and a number of more bits is out of range. Nothing else is ever read. -/
theorem read_render_within_range :
    (∀ duration : Duration, duration.Fits → read duration.render = .ok duration) ∧
    (∀ duration : Duration, ¬ duration.Fits →
      read duration.render = .error ⟨.overflow, duration.render⟩) ∧
    (∀ first second : Duration, first.Fits → second.Fits → first ≠ second →
      first.render ≠ second.render) ∧
    (∀ text duration, read text = .ok duration → duration.Fits) ∧
    read (render ⟨-2 ^ 63⟩) = .ok ⟨-2 ^ 63⟩ := by
  have back (duration : Duration) (inside : duration.Fits) :
      read duration.render = .ok duration := by
    rw [read_render, if_pos inside]
  refine ⟨back, ?_, ?_, fun text duration => fits_of_read, back ⟨-2 ^ 63⟩ (by decide)⟩
  · intro duration outside
    rw [read_render, if_neg outside]
  · intro first second inside insideToo differ same
    exact differ (render_inj same)

theorem read_render_at_limits :
    read (render ⟨2 ^ 63 - 1⟩) = .ok ⟨2 ^ 63 - 1⟩ ∧
      read (render ⟨2 ^ 63⟩) = .error ⟨.overflow, render ⟨2 ^ 63⟩⟩ ∧
      render ⟨-2 ^ 63⟩ ≠ render ⟨2 ^ 63 - 1⟩ ∧ Fits ⟨-2 ^ 63⟩ := by
  obtain ⟨back, beyond, differ, inside, least⟩ := read_render_within_range
  exact ⟨back _ (by decide), beyond _ (by decide), differ _ _ (by decide) (by decide) (by decide),
    inside _ _ least⟩

theorem trim_render (duration : Duration) :
    Text.trim duration.render.toList = duration.render.toList := by
  obtain ⟨front, stop⟩ := renderMagnitude_eq_append duration.nanoseconds.natAbs
  obtain ⟨c, rest, start, digit⟩ :=
    beginsWithDigit_renderMagnitude duration.nanoseconds.natAbs
  rw [render, String.toList_ofList]
  by_cases negative : duration.nanoseconds < 0
  · have signedStop : '-' :: renderMagnitude duration.nanoseconds.natAbs =
        ('-' :: front) ++ ['s'] := by rw [stop, List.cons_append]
    rw [if_pos negative]
    exact Text.trim_eq_self rfl rfl signedStop rfl
  · rw [if_neg negative, List.nil_append]
    exact Text.trim_eq_self start (Text.isBlank_eq_false_of_isDigit digit) stop rfl

def isTextChar (c : Char) : Bool :=
  c.isDigit || ['-', '.', 'n', 's', '\u00b5', 'm', 'h'].contains c

theorem isTextChar_of_isDigit {c : Char} (digit : c.isDigit) : isTextChar c := by
  rw [isTextChar, digit, Bool.true_or]

theorem isTextChar_of_mem_name (unit : TimeUnit) : ∀ c ∈ unit.name, isTextChar c := by
  cases unit <;> exact List.all_eq_true.mp rfl

theorem isTextChar_of_mem_toDigits (n : Nat) : ∀ c ∈ Nat.toDigits 10 n, isTextChar c :=
  fun c member => isTextChar_of_isDigit (isDigit_of_mem_toDigits n c member)

theorem isTextChar_of_mem_renderScaled (value width : Nat) :
    ∀ c ∈ renderScaled value width, isTextChar c := by
  have whole := isTextChar_of_mem_toDigits (value / 10 ^ width)
  simp only [renderScaled]
  split
  · exact whole
  · have fraction : ∀ c ∈ fractionDigits width (value % 10 ^ width), isTextChar c :=
      fun c member => isTextChar_of_isDigit (isDigit_of_mem_fractionDigits width _ c member)
    exact List.forall_mem_append.mpr ⟨whole, List.forall_mem_cons.mpr ⟨rfl, fraction⟩⟩

theorem isTextChar_of_mem_renderFromSecond (magnitude : Nat) :
    ∀ c ∈ renderFromSecond magnitude, isTextChar c := by
  have seconds : ∀ c ∈ secondsText magnitude, isTextChar c :=
    List.forall_mem_append.mpr
      ⟨isTextChar_of_mem_renderScaled _ 9, isTextChar_of_mem_name .second⟩
  have minutes : ∀ c ∈ minutesText magnitude, isTextChar c :=
    List.forall_mem_append.mpr ⟨isTextChar_of_mem_toDigits _,
      List.forall_mem_append.mpr ⟨isTextChar_of_mem_name .minute, seconds⟩⟩
  have hours : ∀ c ∈ hoursText magnitude, isTextChar c :=
    List.forall_mem_append.mpr ⟨isTextChar_of_mem_toDigits _,
      List.forall_mem_append.mpr ⟨isTextChar_of_mem_name .hour, minutes⟩⟩
  rw [renderFromSecond_eq]
  split
  · exact hours
  · split
    · exact minutes
    · exact seconds

theorem isTextChar_of_mem_renderMagnitude (magnitude : Nat) :
    ∀ c ∈ renderMagnitude magnitude, isTextChar c := by
  have scaled (width : Nat) (unit : TimeUnit) :
      ∀ c ∈ renderScaled magnitude width ++ unit.name, isTextChar c :=
    List.forall_mem_append.mpr
      ⟨isTextChar_of_mem_renderScaled magnitude width, isTextChar_of_mem_name unit⟩
  rw [renderMagnitude]
  split
  · exact List.all_eq_true.mp rfl
  · split
    · rw [renderBelowSecond]
      split
      · exact scaled 0 .nanosecond
      · split
        · exact scaled 3 .microsecond
        · exact scaled 6 .millisecond
    · exact isTextChar_of_mem_renderFromSecond magnitude

theorem isTextChar_of_mem_render (duration : Duration) :
    ∀ c ∈ duration.render.toList, isTextChar c := by
  have body := isTextChar_of_mem_renderMagnitude duration.nanoseconds.natAbs
  rw [render, String.toList_ofList]
  split
  · exact List.forall_mem_append.mpr ⟨List.all_eq_true.mp rfl, body⟩
  · exact body

end Duration

end FederationConfig
