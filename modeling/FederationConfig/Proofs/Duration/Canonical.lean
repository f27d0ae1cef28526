import FederationConfig.Proofs.Duration.Numeral
import FederationConfig.Proofs.Duration.RoundTrip

/-!
The canonical texts of durations, described by what they are made of. Durations are written in
these texts and in no others. Each of them is for one duration and is read back as it.
-/

namespace FederationConfig.Duration

inductive Subsecond where
  | nano
  | micro
  | milli
  deriving DecidableEq, Repr

namespace Subsecond

def unit : Subsecond → TimeUnit
  | nano => .nanosecond
  | micro => .microsecond
  | milli => .millisecond

/-- How many places behind the point reach down to a nanosecond. -/
def width : Subsecond → Nat
  | nano => 0
  | micro => 3
  | milli => 6

theorem nanoseconds_unit (small : Subsecond) : small.unit.nanoseconds = 10 ^ small.width := by
  cases small <;> rfl

end Subsecond

/-- A canonical text but for its sign, by the greatest unit in it. What is left of that unit is
written out down to the seconds, zeros included. -/
inductive Magnitude where
  | belowSecond (small : Subsecond) (amount : Scaled small.width)
      (least : 1 ≤ amount.whole.value) (most : amount.whole.value ≤ 999)
  | fromSecond (seconds : Scaled 9)
      (least : 1 ≤ seconds.whole.value) (most : seconds.whole.value ≤ 59)
  | fromMinute (minutes : Numeral) (seconds : Scaled 9)
      (least : 1 ≤ minutes.value) (most : minutes.value ≤ 59)
      (mostSeconds : seconds.whole.value ≤ 59)
  | fromHour (hours minutes : Numeral) (seconds : Scaled 9)
      (least : 1 ≤ hours.value) (mostMinutes : minutes.value ≤ 59)
      (mostSeconds : seconds.whole.value ≤ 59)

namespace Magnitude

def text : Magnitude → List Char
  | belowSecond small amount .. => amount.text ++ small.unit.name
  | fromSecond seconds .. => seconds.text ++ ['s']
  | fromMinute minutes seconds .. => minutes.digits ++ 'm' :: (seconds.text ++ ['s'])
  | fromHour hours minutes seconds .. =>
    hours.digits ++ 'h' :: (minutes.digits ++ 'm' :: (seconds.text ++ ['s']))

def nanoseconds : Magnitude → Nat
  | belowSecond small amount .. =>
    amount.whole.value * small.unit.nanoseconds + amount.places.value
  | fromSecond seconds .. => seconds.value
  | fromMinute minutes seconds .. =>
    minutes.value * TimeUnit.minute.nanoseconds + seconds.value
  | fromHour hours minutes seconds .. =>
    hours.value * TimeUnit.hour.nanoseconds +
      (minutes.value * TimeUnit.minute.nanoseconds + seconds.value)

theorem nanoseconds_belowSecond (small : Subsecond) (amount : Scaled small.width)
    (least : 1 ≤ amount.whole.value) (most : amount.whole.value ≤ 999) :
    (belowSecond small amount least most).nanoseconds = amount.value := by
  rw [nanoseconds, small.nanoseconds_unit]
  rfl

end Magnitude

theorem renderMagnitude_of_subsecond (small : Subsecond) {magnitude : Nat}
    (least : 10 ^ small.width ≤ magnitude) (most : magnitude < 1000 * 10 ^ small.width) :
    renderMagnitude magnitude = renderScaled magnitude small.width ++ small.unit.name := by
  have second : TimeUnit.second.nanoseconds = 10 ^ 9 := rfl
  have positive : magnitude ≠ 0 := by
    have unit : 0 < 10 ^ small.width := Nat.pow_pos (by decide)
    omega
  rw [renderMagnitude, if_neg positive]
  cases small <;> simp only [Subsecond.width] at least most ⊢
  case nano =>
    rw [if_pos (by omega), renderBelowSecond, if_pos (by omega)]
    rfl
  case micro =>
    rw [if_pos (by omega), renderBelowSecond, if_neg (by omega), if_pos (by omega)]
    rfl
  case milli =>
    rw [if_pos (by omega), renderBelowSecond, if_neg (by omega), if_neg (by omega)]
    rfl

theorem renderMagnitude_of_second {magnitude : Nat} (least : 10 ^ 9 ≤ magnitude) :
    renderMagnitude magnitude = renderFromSecond magnitude := by
  have second : TimeUnit.second.nanoseconds = 10 ^ 9 := rfl
  rw [renderMagnitude, if_neg (by omega), if_neg (by omega)]

theorem Magnitude.nanoseconds_pos (magnitude : Magnitude) : 0 < magnitude.nanoseconds := by
  cases magnitude with
  | belowSecond small amount least most =>
      rw [nanoseconds_belowSecond]
      exact Scaled.value_pos least
  | fromSecond seconds least most => exact Scaled.value_pos least
  | fromMinute minutes seconds least most mostSeconds =>
      exact Nat.add_pos_left (Nat.mul_pos least (TimeUnit.nanoseconds_pos _)) _
  | fromHour hours minutes seconds least mostMinutes mostSeconds =>
      exact Nat.add_pos_left (Nat.mul_pos least (TimeUnit.nanoseconds_pos _)) _

theorem clock_parts {hours minutes rest : Nat} (most : minutes ≤ 59)
    (short : rest < TimeUnit.minute.nanoseconds) {amount : Nat}
    (total : hours * TimeUnit.hour.nanoseconds +
      (minutes * TimeUnit.minute.nanoseconds + rest) = amount) :
    amount / TimeUnit.hour.nanoseconds = hours ∧
      amount % TimeUnit.hour.nanoseconds / TimeUnit.minute.nanoseconds = minutes ∧
      amount % TimeUnit.minute.nanoseconds = rest := by
  simp only [TimeUnit.nanoseconds] at *
  omega

theorem secondsText_of_rest {magnitude : Nat} {seconds : Scaled 9}
    (rest : magnitude % TimeUnit.minute.nanoseconds = seconds.value) :
    secondsText magnitude = seconds.text ++ ['s'] := by
  rw [secondsText, rest, seconds.renderScaled_value]
  rfl

theorem minutesText_of_rest {magnitude : Nat} {minutes : Numeral} {seconds : Scaled 9}
    (count : magnitude % TimeUnit.hour.nanoseconds / TimeUnit.minute.nanoseconds = minutes.value)
    (rest : magnitude % TimeUnit.minute.nanoseconds = seconds.value) :
    minutesText magnitude = minutes.digits ++ 'm' :: (seconds.text ++ ['s']) := by
  rw [minutesText, count, minutes.toDigits_value, secondsText_of_rest rest]
  rfl

theorem Magnitude.renderMagnitude_nanoseconds (magnitude : Magnitude) :
    renderMagnitude magnitude.nanoseconds = magnitude.text := by
  have minute : TimeUnit.minute.nanoseconds = (59 + 1) * 10 ^ 9 := rfl
  cases magnitude with
  | belowSecond small amount least most =>
      rw [nanoseconds_belowSecond, renderMagnitude_of_subsecond small (Scaled.le_value least)
        (Scaled.value_lt most), amount.renderScaled_value]
      rfl
  | fromSecond seconds least most =>
      have total : 0 * TimeUnit.hour.nanoseconds +
          (0 * TimeUnit.minute.nanoseconds + seconds.value) = seconds.value := by
        rw [Nat.zero_mul, Nat.zero_mul, Nat.zero_add, Nat.zero_add]
      obtain ⟨hours, minutes, rest⟩ :=
        clock_parts (Nat.zero_le 59) (minute ▸ Scaled.value_lt most) total
      rw [nanoseconds, renderMagnitude_of_second (Scaled.le_value least), renderFromSecond_eq,
        hours, if_neg (Nat.lt_irrefl 0), minutes, if_neg (Nat.lt_irrefl 0),
        secondsText_of_rest rest]
      rfl
  | fromMinute minutes seconds least most mostSeconds =>
      have total : 0 * TimeUnit.hour.nanoseconds +
          (minutes.value * TimeUnit.minute.nanoseconds + seconds.value) =
          minutes.value * TimeUnit.minute.nanoseconds + seconds.value := by
        rw [Nat.zero_mul, Nat.zero_add]
      have long : 10 ^ 9 ≤ minutes.value * TimeUnit.minute.nanoseconds :=
        Nat.le_trans (by decide) (Nat.le_mul_of_pos_left _ least)
      obtain ⟨hours, count, rest⟩ :=
        clock_parts most (minute ▸ Scaled.value_lt mostSeconds) total
      rw [nanoseconds, renderMagnitude_of_second (Nat.le_add_right_of_le long),
        renderFromSecond_eq, hours, if_neg (Nat.lt_irrefl 0),
        if_pos (Nat.lt_of_lt_of_eq least count.symm), minutesText_of_rest count rest]
      rfl
  | fromHour hours minutes seconds least mostMinutes mostSeconds =>
      have long : 10 ^ 9 ≤ hours.value * TimeUnit.hour.nanoseconds :=
        Nat.le_trans (by decide) (Nat.le_mul_of_pos_left _ least)
      obtain ⟨count, countMinutes, rest⟩ :=
        clock_parts mostMinutes (minute ▸ Scaled.value_lt mostSeconds) rfl
      rw [nanoseconds, renderMagnitude_of_second (Nat.le_add_right_of_le long),
        renderFromSecond_eq, if_pos (Nat.lt_of_lt_of_eq least count.symm), hoursText, count,
        hours.toDigits_value, minutesText_of_rest countMinutes rest]
      rfl

theorem Magnitude.exists_belowSecond (small : Subsecond) {amount : Nat}
    (least : 10 ^ small.width ≤ amount) (most : amount < 1000 * 10 ^ small.width) :
    ∃ magnitude : Magnitude, magnitude.nanoseconds = amount := by
  obtain ⟨scaled, same⟩ : ∃ scaled : Scaled small.width, scaled.value = amount :=
    ⟨_, Scaled.value_ofNat _ _⟩
  have whole := scaled.value_div
  rw [same] at whole
  have low : 1 ≤ scaled.whole.value := by
    rw [← whole]
    exact Nat.div_pos least (Nat.pow_pos (by decide))
  have high : scaled.whole.value ≤ 999 := by
    rw [← whole]
    exact Nat.le_of_lt_succ (Nat.div_lt_of_lt_mul (Nat.mul_comm _ _ ▸ most))
  refine ⟨belowSecond small scaled low high, ?_⟩
  rw [nanoseconds_belowSecond, same]

theorem Magnitude.exists_fromSecond {amount : Nat} (least : 10 ^ 9 ≤ amount) :
    ∃ magnitude : Magnitude, magnitude.nanoseconds = amount := by
  obtain ⟨hours, isHours⟩ : ∃ hours : Numeral,
      hours.value = amount / TimeUnit.hour.nanoseconds := ⟨_, Numeral.value_ofNat _⟩
  obtain ⟨minutes, isMinutes⟩ : ∃ minutes : Numeral, minutes.value =
      amount % TimeUnit.hour.nanoseconds / TimeUnit.minute.nanoseconds :=
    ⟨_, Numeral.value_ofNat _⟩
  obtain ⟨seconds, isRest⟩ : ∃ seconds : Scaled 9,
      seconds.value = amount % TimeUnit.minute.nanoseconds := ⟨_, Scaled.value_ofNat _ _⟩
  have isSeconds := seconds.value_div
  simp only [TimeUnit.nanoseconds] at isHours isMinutes isRest
  have mostMinutes : minutes.value ≤ 59 := by omega
  have mostSeconds : seconds.whole.value ≤ 59 := by omega
  by_cases noHour : hours.value = 0
  · by_cases noMinute : minutes.value = 0
    · refine ⟨fromSecond seconds (by omega) mostSeconds, ?_⟩
      simp only [nanoseconds]
      omega
    · refine ⟨fromMinute minutes seconds (by omega) mostMinutes mostSeconds, ?_⟩
      simp only [nanoseconds, TimeUnit.nanoseconds]
      omega
  · refine ⟨fromHour hours minutes seconds (by omega) mostMinutes mostSeconds, ?_⟩
    simp only [nanoseconds, TimeUnit.nanoseconds]
    omega

theorem Magnitude.exists_nanoseconds {amount : Nat} (positive : 0 < amount) :
    ∃ magnitude : Magnitude, magnitude.nanoseconds = amount := by
  by_cases micro : amount < 10 ^ 3
  · exact exists_belowSecond .nano positive micro
  · by_cases milli : amount < 10 ^ 6
    · exact exists_belowSecond .micro (Nat.le_of_not_lt micro) milli
    · by_cases second : amount < 10 ^ 9
      · exact exists_belowSecond .milli (Nat.le_of_not_lt milli) second
      · exact exists_fromSecond (Nat.le_of_not_lt second)

/-- A canonical text. Nothing at all is written in seconds and without a sign. -/
inductive Form where
  | zero
  | positive (magnitude : Magnitude)
  | negative (magnitude : Magnitude)

namespace Form

def text : Form → List Char
  | zero => ['0', 's']
  | positive magnitude => magnitude.text
  | negative magnitude => '-' :: magnitude.text

def duration : Form → Duration
  | zero => .zero
  | positive magnitude => ⟨magnitude.nanoseconds⟩
  | negative magnitude => ⟨-magnitude.nanoseconds⟩

theorem render_duration (form : Form) : form.duration.render = String.ofList form.text := by
  cases form with
  | zero => rfl
  | positive magnitude =>
      have sign : ¬ (magnitude.nanoseconds : Int) < 0 := by omega
      rw [render, duration, if_neg sign, Int.natAbs_natCast,
        magnitude.renderMagnitude_nanoseconds]
      rfl
  | negative magnitude =>
      have sign : -(magnitude.nanoseconds : Int) < 0 := by
        have positive := magnitude.nanoseconds_pos
        omega
      rw [render, duration, if_pos sign, Int.natAbs_neg, Int.natAbs_natCast,
        magnitude.renderMagnitude_nanoseconds]
      rfl

theorem exists_duration (duration : Duration) : ∃ form : Form, form.duration = duration := by
  obtain ⟨nanoseconds⟩ := duration
  by_cases none : nanoseconds = 0
  · exact ⟨zero, by rw [none]; rfl⟩
  · obtain ⟨magnitude, amount⟩ := Magnitude.exists_nanoseconds (Int.natAbs_pos.mpr none)
    by_cases sign : nanoseconds < 0
    · refine ⟨negative magnitude, congrArg mk ?_⟩
      omega
    · refine ⟨positive magnitude, congrArg mk ?_⟩
      omega

end Form

theorem render_eq_iff (duration : Duration) (text : String) :
    duration.render = text ↔
      ∃ form : Form, form.duration = duration ∧ form.text = text.toList := by
  constructor
  · rintro rfl
    obtain ⟨form, rfl⟩ := Form.exists_duration duration
    exact ⟨form, rfl, by rw [form.render_duration, String.toList_ofList]⟩
  · rintro ⟨form, rfl, same⟩
    rw [form.render_duration, same, String.ofList_toList]

/-- Seconds in 64 signed bits, and less than another second of nanoseconds beyond them. -/
def Representable (duration : Duration) : Prop :=
  -(2 ^ 63 * 10 ^ 9 + 999999999) ≤ duration.nanoseconds ∧
    duration.nanoseconds ≤ (2 ^ 63 - 1) * 10 ^ 9 + 999999999

instance (duration : Duration) : Decidable duration.Representable :=
  inferInstanceAs (Decidable (_ ∧ _))

theorem representable_iff (duration : Duration) :
    duration.Representable ↔ ∃ seconds rest : Int,
      duration.nanoseconds = seconds * 10 ^ 9 + rest ∧
        -2 ^ 63 ≤ seconds ∧ seconds < 2 ^ 63 ∧ -10 ^ 9 < rest ∧ rest < 10 ^ 9 ∧
        (0 ≤ seconds ∧ 0 ≤ rest ∨ seconds ≤ 0 ∧ rest ≤ 0) := by
  rw [Representable]
  constructor
  · intro bounds
    by_cases sign : 0 ≤ duration.nanoseconds
    · refine ⟨duration.nanoseconds / 10 ^ 9, duration.nanoseconds % 10 ^ 9, ?_⟩
      omega
    · refine ⟨-(-duration.nanoseconds / 10 ^ 9), -(-duration.nanoseconds % 10 ^ 9), ?_⟩
      omega
  · rintro ⟨seconds, rest, parts, bounds⟩
    omega

/-- Durations are written in the canonical texts and in no others, and a text of 64 signed bits of
nanoseconds is read as what it stands for, which is written in the same text again. -/
theorem canonical_texts :
    (∀ text : String,
      (∃ duration : Duration, duration.Representable ∧ duration.render = text) ↔
        ∃ form : Form, form.duration.Representable ∧ form.text = text.toList) ∧
    (∀ (text : String) (form : Form), form.text = text.toList → form.duration.Fits →
      read text = .ok form.duration ∧ (read text).map render = .ok text) := by
  refine ⟨fun text => ⟨?_, ?_⟩, fun text form same inside => ?_⟩
  · rintro ⟨duration, representable, written⟩
    obtain ⟨form, rfl, same⟩ := (render_eq_iff duration text).mp written
    exact ⟨form, representable, same⟩
  · rintro ⟨form, representable, same⟩
    exact ⟨form.duration, representable, (render_eq_iff _ text).mpr ⟨form, rfl, same⟩⟩
  · have written := (render_eq_iff form.duration text).mpr ⟨form, rfl, same⟩
    have reads : read text = .ok form.duration := by
      rw [← written, read_render, if_pos inside]
    refine ⟨reads, ?_⟩
    rw [reads, ← written]
    rfl

theorem canonical_past_the_hour :
    ∃ form : Form, form.text = "1h0m0.5s".toList ∧ form.duration = ⟨3600500000000⟩ ∧
      form.duration.Fits ∧ read "1h0m0.5s" = .ok ⟨3600500000000⟩ ∧
      (read "1h0m0.5s").map render = .ok "1h0m0.5s" := by
  let one : Numeral := ⟨['1'], by decide, List.forall_mem_singleton.mpr rfl, by decide⟩
  let zero : Numeral := ⟨['0'], by decide, List.forall_mem_singleton.mpr rfl, by decide⟩
  let half : Scaled 9 := ⟨zero, ⟨['5'], List.forall_mem_singleton.mpr rfl, by decide, by decide⟩⟩
  let form : Form := .positive (.fromHour one zero half (by decide) (by decide) (by decide))
  have same : form.text = "1h0m0.5s".toList := by decide
  have amount : form.duration = ⟨3600500000000⟩ := by decide
  have inside : form.duration.Fits := by decide
  obtain ⟨reads, back⟩ := canonical_texts.2 "1h0m0.5s" form same inside
  exact ⟨form, same, amount, inside, amount ▸ reads, back⟩

end FederationConfig.Duration
