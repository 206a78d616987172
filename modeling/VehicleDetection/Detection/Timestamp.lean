import VehicleDetection.Base.Calendar
import VehicleDetection.Base.FixedWidth
import VehicleDetection.Detection.Json

/-!
# Time stamps

* `civilFromDays_date`  the date of a day number, by the calendar;
* `UtcTime`             a date and a time of day to the millisecond;
* `text`, `seconds`     its text of fixed width, and its seconds since 1970-01-01;
* `formatIso8601Utc_text`  the text of a stamp is that of its time;
* `text_lt_iff`         texts are in the order of the times;
* `formatIso8601Utc_denotes`  shape, meaning and order of the texts of stamps.
-/

set_option linter.unusedVariables false

namespace VD
open BStr Calendar

/-! ## dates -/

/-- a day of the 400 years by century, four years, year and day of the year from March on -/
structure Cycle (doe q s v w : Nat) : Prop where
  sum : doe = 36524 * q + 1461 * s + 365 * v + w
  century : q ≤ 3
  four : s ≤ 24
  year : v ≤ 3
  day : w ≤ 364 ∨ w = 365 ∧ v = 3 ∧ (s < 24 ∨ q = 3)

theorem exists_cycle {doe : Nat} (h : doe < 146097) : ∃ q s v w, Cycle doe q s v w := by
  by_cases hlast : doe = 146096
  · exact ⟨3, 24, 3, 365, by omega, by omega, by omega, by omega, by omega⟩
  · have hr : doe % 36524 < 36524 := Nat.mod_lt _ (by omega)
    by_cases hu : doe % 36524 % 1461 = 1460
    · exact ⟨doe / 36524, doe % 36524 / 1461, 3, 365, by omega, by omega, by omega, by omega, by omega⟩
    · exact ⟨doe / 36524, doe % 36524 / 1461, doe % 36524 % 1461 / 365, doe % 36524 % 1461 % 365,
        by omega, by omega, by omega, by omega, by omega⟩

/-- the era-wise year of `civilFromDays` -/
theorem Cycle.yoe {doe q s v w : Nat} (h : Cycle doe q s v w) :
    (doe - doe / 1460 + doe / 36524 - doe / 146096) / 365 = 100 * q + 4 * s + v := by
  obtain ⟨hsum, hq, hs, hv, hw⟩ := h
  by_cases hlast : doe = 146096
  · subst hlast
    omega
  have h₁ : doe / 146096 = 0 := Nat.div_eq_of_lt (by omega)
  have h₂ : doe / 36524 = q := Nat.div_eq_of_lt_le (by omega) (by omega)
  -- what the years of 1460 days are behind the years of four
  obtain ⟨e, he, he'⟩ : ∃ e, doe / 1460 = 25 * q + s + e ∧ 1460 * e ≤ 24 * q + s + 365 * v + w ∧
      24 * q + s + 365 * v + w < 1460 * e + 1460 := by
    refine ⟨(24 * q + s + 365 * v + w) / 1460, ?_, by omega, by omega⟩
    have hsplit : doe = (24 * q + s + 365 * v + w) + 1460 * (25 * q + s) := by omega
    rw [hsplit, Nat.add_mul_div_left _ _ (by omega), Nat.add_comm]
  rw [h₁, h₂, he]
  refine Nat.div_eq_of_lt_le ?_ ?_
  · omega
  · omega

/-- the months from March on, of 153 days in five -/
theorem march_month {w mp : Nat} (hmp : mp = (5 * w + 2) / 153) (hw : w ≤ 365) {m d : Nat}
    (hm : m = if mp < 10 then mp + 3 else mp - 9) (hd : d = w - (153 * mp + 2) / 5 + 1) :
    1 ≤ m ∧ m ≤ 12 ∧ 1 ≤ d ∧ (∀ year, (w = 365 → IsLeap year) → d ≤ daysInMonth year m) ∧
      (if m ≤ 2 then m + 9 else m - 3) = mp ∧ (153 * mp + 2) / 5 + (d - 1) = w := by
  have hle : mp ≤ 11 := by omega
  refine ⟨by split at hm <;> omega, by split at hm <;> omega, by omega, ?_, ?_, by omega⟩
  · intro year hl
    unfold daysInMonth
    split
    · by_cases h : IsLeap year
      · rw [if_pos h]
        split at hm <;> omega
      · rw [if_neg h]
        have hne := mt hl h
        split at hm <;> omega
    · split
      · split at hm <;> omega
      · split at hm <;> omega
  · split at hm <;> split <;> omega

/-- The algorithm gives the date with this number. -/
theorem civilFromDays_date (n : Int) :
    ∃ d : Date, civilFromDays n = (d.year, d.month, d.day) ∧ d.dayNumber = n := by
  have hz₀ := Int.emod_nonneg (n + 719468) (b := 146097) (by omega)
  have hz₁ := Int.emod_lt_of_pos (n + 719468) (b := 146097) (by omega)
  have hz := Int.mul_ediv_add_emod (n + 719468) 146097
  obtain ⟨doe, hdoe⟩ := Int.eq_ofNat_of_zero_le hz₀
  obtain ⟨era, hera⟩ : ∃ era, era = (n + 719468) / 146097 := ⟨_, rfl⟩
  obtain ⟨q, s, v, w, hc⟩ := exists_cycle (show doe < 146097 by omega)
  have hyoe := hc.yoe
  obtain ⟨hsum, hq, hs, hv, hw⟩ := hc
  obtain ⟨y, hy⟩ : ∃ y, y = 100 * q + 4 * s + v := ⟨_, rfl⟩
  have hy₄ : y / 4 = 25 * q + s := by omega
  have hy₁₀₀ : y / 100 = q := by omega
  have hdoy : doe - (365 * y + y / 4 - y / 100) = w := by
    rw [hy₄, hy₁₀₀]
    omega
  obtain ⟨mp, hmp⟩ : ∃ mp, mp = (5 * w + 2) / 153 := ⟨_, rfl⟩
  obtain ⟨m, hm⟩ : ∃ m, m = if mp < 10 then mp + 3 else mp - 9 := ⟨_, rfl⟩
  obtain ⟨d, hd⟩ : ∃ d, d = w - (153 * mp + 2) / 5 + 1 := ⟨_, rfl⟩
  have hciv : civilFromDays n = (y + era * 400 + (if m ≤ 2 then 1 else 0), m, d) := by
    unfold civilFromDays
    dsimp only
    rw [hdoe, ← hera, Int.toNat_natCast, hyoe, ← hy, hdoy, ← hmp, ← hm, ← hd]
  obtain ⟨h₁, h₂, h₃, h₄, h₅, h₆⟩ := march_month hmp (by omega) hm hd
  have hday : d ≤ daysInMonth (y + era * 400 + (if m ≤ 2 then 1 else 0)) m := by
    refine h₄ _ fun h365 => ?_
    -- the 366th day from March on is a 29th of February
    have hm₂ : m ≤ 2 := by
      rw [hm]
      split <;> omega
    rw [if_pos hm₂]
    unfold IsLeap
    omega
  refine ⟨⟨_, m, d, h₁, h₂, h₃, hday⟩, hciv, ?_⟩
  rw [dayNumber_march]
  simp only [h₅, add_sub_cancel_right]
  have hy₄' : ((y : Int) + era * 400) / 4 = 25 * q + s + 100 * era := by omega
  have hy₁₀₀' : ((y : Int) + era * 400) / 100 = q + 4 * era := by omega
  have hy₄₀₀' : ((y : Int) + era * 400) / 400 = era := by omega
  rw [hy₄', hy₁₀₀', hy₄₀₀']
  omega

/-! ## times -/

structure UtcTime where
  date : Date
  hour : Nat
  min : Nat
  sec : Nat
  millis : Nat
  hour_lt : hour < 24
  min_lt : min < 60
  sec_lt : sec < 60
  millis_lt : millis < 1000

namespace UtcTime

/-- the seconds since 1970-01-01T00:00:00Z, without leap seconds -/
noncomputable def seconds (t : UtcTime) : Int :=
  86400 * t.date.dayNumber + (3600 * t.hour + 60 * t.min + t.sec : Nat)

/-- `YYYY-MM-DDThh:mm:ss.mmmZ`: the widths and the bytes behind the fields -/
def shape : List (Nat × UInt8) := [(4, 45), (2, 45), (2, 84), (2, 58), (2, 58), (2, 46), (3, 90)]

def numbers (t : UtcTime) : List Nat :=
  [t.date.year.toNat, t.date.month, t.date.day, t.hour, t.min, t.sec, t.millis]

def text (t : UtcTime) : Bytes := fields shape t.numbers

/-- the year has four digits -/
def FourDigits (t : UtcTime) : Prop := 0 ≤ t.date.year ∧ t.date.year < 10000

theorem fit {t : UtcTime} (h : t.FourDigits) : Fit shape t.numbers := by
  obtain ⟨h₀, h₁⟩ := h
  have hmonth := t.date.month_le
  have hday := t.date.day_le
  have hlong : daysInMonth t.date.year t.date.month ≤ 31 := by
    unfold daysInMonth
    split
    · split
      · omega
      · omega
    · split
      · omega
      · exact le_rfl
  have hhour := t.hour_lt
  have hmin := t.min_lt
  have hsec := t.sec_lt
  have hmillis := t.millis_lt
  refine .cons ⟨by decide, ?_⟩ (.cons ⟨by decide, ?_⟩ (.cons ⟨by decide, ?_⟩ (.cons ⟨by decide, ?_⟩
    (.cons ⟨by decide, ?_⟩ (.cons ⟨by decide, ?_⟩ (.cons ⟨by decide, hmillis⟩ .nil))))))
  · show t.date.year.toNat < 10000
    omega
  · show t.date.month < 100
    omega
  · show t.date.day < 100
    omega
  · show t.hour < 100
    omega
  · show t.min < 100
    omega
  · show t.sec < 100
    omega

theorem text_length {t : UtcTime} (h : t.FourDigits) : t.text.length = 24 := fields_length (fit h)

/-- the seconds since midnight -/
def secondOfDay (t : UtcTime) : Nat := 3600 * t.hour + 60 * t.min + t.sec

theorem secondOfDay_lt (t : UtcTime) : t.secondOfDay < 86400 := by
  have hhour := t.hour_lt
  have hmin := t.min_lt
  have hsec := t.sec_lt
  unfold secondOfDay
  omega

theorem secondOfDay_lt_iff {t t' : UtcTime} : t.secondOfDay < t'.secondOfDay ↔
    t.hour < t'.hour ∨ t.hour = t'.hour ∧ (t.min < t'.min ∨ t.min = t'.min ∧ t.sec < t'.sec) := by
  have hmin := t.min_lt
  have hsec := t.sec_lt
  have hmin' := t'.min_lt
  have hsec' := t'.sec_lt
  unfold secondOfDay
  omega

theorem secondOfDay_eq_iff {t t' : UtcTime} : t.secondOfDay = t'.secondOfDay ↔
    t.hour = t'.hour ∧ t.min = t'.min ∧ t.sec = t'.sec := by
  have hmin := t.min_lt
  have hsec := t.sec_lt
  have hmin' := t'.min_lt
  have hsec' := t'.sec_lt
  unfold secondOfDay
  omega

theorem seconds_lt_iff {t t' : UtcTime} : t.seconds < t'.seconds ↔
    t.date.dayNumber < t'.date.dayNumber ∨
      t.date.dayNumber = t'.date.dayNumber ∧ t.secondOfDay < t'.secondOfDay := by
  have h := t.secondOfDay_lt
  have h' := t'.secondOfDay_lt
  show 86400 * t.date.dayNumber + (t.secondOfDay : Int) < 86400 * t'.date.dayNumber + t'.secondOfDay ↔ _
  omega

theorem seconds_eq_iff {t t' : UtcTime} : t.seconds = t'.seconds ↔
    t.date.dayNumber = t'.date.dayNumber ∧ t.secondOfDay = t'.secondOfDay := by
  have h := t.secondOfDay_lt
  have h' := t'.secondOfDay_lt
  show 86400 * t.date.dayNumber + (t.secondOfDay : Int) = 86400 * t'.date.dayNumber + t'.secondOfDay ↔ _
  omega

/-- the order of the numbers is the order of the times -/
theorem numbers_lt_iff {t t' : UtcTime} (h : t.FourDigits) (h' : t'.FourDigits) :
    t.numbers < t'.numbers ↔
      t.seconds < t'.seconds ∨ t.seconds = t'.seconds ∧ t.millis < t'.millis := by
  obtain ⟨h₀, -⟩ := h
  obtain ⟨h₀', -⟩ := h'
  have hdate : t.date.dayNumber < t'.date.dayNumber ↔ t.date.year.toNat < t'.date.year.toNat ∨
      t.date.year.toNat = t'.date.year.toNat ∧ (t.date.month < t'.date.month ∨
        t.date.month = t'.date.month ∧ t.date.day < t'.date.day) := by
    rw [Date.dayNumber_lt_iff, Date.key, Date.key, Prod.Lex.toLex_lt_toLex, Prod.Lex.toLex_lt_toLex]
    dsimp only
    omega
  have hsame : t.date.dayNumber = t'.date.dayNumber ↔ t.date.year.toNat = t'.date.year.toNat ∧
      t.date.month = t'.date.month ∧ t.date.day = t'.date.day := by
    constructor
    · intro he
      rw [Date.dayNumber_inj he]
      exact ⟨rfl, rfl, rfl⟩
    · rintro ⟨hy, hm, hd⟩
      have hyear : t.date.year = t'.date.year := by omega
      have hkey : t.date.key = t'.date.key := by rw [Date.key, Date.key, hm, hd, hyear]
      rw [Date.key_inj hkey]
  have hnil : ¬ ([] : List Nat) < [] := List.not_lt_nil _
  rw [seconds_lt_iff, seconds_eq_iff, secondOfDay_lt_iff, secondOfDay_eq_iff, hdate, hsame]
  simp only [numbers, List.cons_lt_cons_iff, hnil, and_false, or_false, and_or_left, or_assoc, and_assoc]

/-- Texts are in the order of the times. -/
theorem text_lt_iff {t t' : UtcTime} (h : t.FourDigits) (h' : t'.FourDigits) :
    t.text < t'.text ↔ t.seconds < t'.seconds ∨ t.seconds = t'.seconds ∧ t.millis < t'.millis :=
  (fields_lt_iff (fit h) (fit h')).trans (numbers_lt_iff h h')

theorem text_eq_iff {t t' : UtcTime} (h : t.FourDigits) (h' : t'.FourDigits) :
    t.text = t'.text ↔ t.seconds = t'.seconds ∧ t.millis = t'.millis := by
  have hlt := numbers_lt_iff h h'
  have hgt := numbers_lt_iff h' h
  constructor
  · intro he
    rw [fields_inj (fit h) (fit h') he] at hlt hgt
    have hno : ¬ t'.numbers < t'.numbers := mt (numbers_lt_iff h' h').mp (by omega)
    have hl := mt hlt.mpr hno
    have hg := mt hgt.mpr hno
    omega
  · rintro ⟨hs, hm⟩
    have hns : ¬ t.numbers < t'.numbers := mt hlt.mp (by omega)
    have hns' : ¬ t'.numbers < t.numbers := mt hgt.mp (by omega)
    exact congrArg (fields shape) (le_antisymm (not_lt.mp hns') (not_lt.mp hns))

end UtcTime

/-! ## stamps -/

/-- a year of four digits is not padded -/
theorem decimalInt_year {year : Int} (h : 1000 ≤ year) :
    decimalInt year = zeroPad 4 (decimal year.toNat) := by
  have hlen : 4 ≤ (decimal year.toNat).length := by
    have hlong := mt (decimal_length_le (n := year.toNat) (k := 3) (by omega)).mp (by omega)
    omega
  have habs : year.natAbs = year.toNat := by omega
  rw [decimalInt, if_neg (by omega), habs, zeroPad, Nat.sub_eq_zero_of_le hlen]
  rfl

/-- The text of a stamp is the text of its time. -/
theorem formatIso8601Utc_text (sec : Int32) {nanosec : UInt32} (h : nanosec.toNat < 10 ^ 9) :
    ∃ t : UtcTime, t.FourDigits ∧ formatIso8601Utc sec nanosec = t.text ∧
      t.seconds = sec.toInt ∧ t.millis = nanosec.toNat / 10 ^ 6 := by
  obtain ⟨d, hciv, hnum⟩ := civilFromDays_date (sec.toInt / 86400)
  have hlo := Int32.le_toInt sec
  have hhi := Int32.toInt_lt sec
  have hyear₀ := d.le_dayNumber
  have hyear₁ := d.dayNumber_lt_year
  rw [hnum, daysBeforeYear_eq] at hyear₀ hyear₁
  have hyear : 1000 ≤ d.year ∧ d.year < 10000 := by omega
  have hs₀ := Int.emod_nonneg sec.toInt (b := 86400) (by omega)
  have hs₁ := Int.emod_lt_of_pos sec.toInt (b := 86400) (by omega)
  have hmillis : (nanosec / 1000000).toNat = nanosec.toNat / 10 ^ 6 := UInt32.toNat_div _ _
  obtain ⟨s, hs⟩ := Int.eq_ofNat_of_zero_le hs₀
  refine ⟨⟨d, s / 3600, s / 60 % 60, s % 60, nanosec.toNat / 10 ^ 6, by omega, by omega, by omega, by omega⟩,
    ⟨by show 0 ≤ d.year; omega, hyear.2⟩, ?_, ?_, rfl⟩
  · unfold formatIso8601Utc gmtime strftime
    simp only [hciv, hs, Int.toNat_natCast, hmillis, decimalInt_year hyear.1]
    simp only [UtcTime.text, UtcTime.numbers, UtcTime.shape, fields, List.append_assoc, List.cons_append]
    rfl
  · show 86400 * d.dayNumber + (3600 * (s / 3600) + 60 * (s / 60 % 60) + s % 60 : Nat) = _
    rw [hnum]
    omega

/-- For all stamps of less than a second of nanoseconds: the text has 24 bytes and is the text of the time
that is `sec` seconds and as many milliseconds after 1970-01-01T00:00:00Z; the byte order of two texts is the
order of seconds and milliseconds, and equal texts are of the same millisecond. -/
theorem formatIso8601Utc_denotes (sec : Int32) (nanosec : UInt32) (h : nanosec.toNat < 10 ^ 9) :
    (formatIso8601Utc sec nanosec).length = 24 ∧
    (∃ t : UtcTime, t.FourDigits ∧ formatIso8601Utc sec nanosec = t.text ∧
      t.seconds = sec.toInt ∧ t.millis = nanosec.toNat / 10 ^ 6) ∧
    ∀ (sec' : Int32) (nanosec' : UInt32), nanosec'.toNat < 10 ^ 9 →
      (formatIso8601Utc sec nanosec < formatIso8601Utc sec' nanosec' ↔
        sec.toInt < sec'.toInt ∨
          sec.toInt = sec'.toInt ∧ nanosec.toNat / 10 ^ 6 < nanosec'.toNat / 10 ^ 6) ∧
      (formatIso8601Utc sec nanosec = formatIso8601Utc sec' nanosec' ↔
        sec = sec' ∧ nanosec.toNat / 10 ^ 6 = nanosec'.toNat / 10 ^ 6) := by
  obtain ⟨t, ht, htext, hsec, hmillis⟩ := formatIso8601Utc_text sec h
  refine ⟨?_, ⟨t, ht, htext, hsec, hmillis⟩, fun sec' nanosec' h' => ?_⟩
  · rw [htext]
    exact UtcTime.text_length ht
  · obtain ⟨t', ht', htext', hsec', hmillis'⟩ := formatIso8601Utc_text sec' h'
    rw [htext, htext', UtcTime.text_lt_iff ht ht', UtcTime.text_eq_iff ht ht', hsec, hsec', hmillis,
      hmillis', Int32.toInt_inj]
    exact ⟨Iff.rfl, Iff.rfl⟩

/-- the last millisecond before 1970 -/
theorem formatIso8601Utc_denotes_before :
    (formatIso8601Utc (-1) 999999999).length = 24 ∧
      formatIso8601Utc (-1) 999999999 < formatIso8601Utc 0 0 := by
  obtain ⟨hlen, -, horder⟩ := formatIso8601Utc_denotes (-1) 999999999 (by decide)
  exact ⟨hlen, (horder 0 0 (by decide)).1.mpr (by decide)⟩

example : formatIso8601Utc (-1) 999999999 = lit "1969-12-31T23:59:59.999Z" := by decide +kernel

end VD
