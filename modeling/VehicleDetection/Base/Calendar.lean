import Mathlib

/-!
# The proleptic Gregorian calendar

* `Date`          a year, and a month and a day that it has;
* `dayNumber`     the days since 1970-01-01, counted by the lengths of years and months;
* `daysBeforeYear_eq`  the closed form for whole years;
* `dayNumber_lt_iff`   the order of the numbers is the order of year, month and day.
-/

set_option linter.unusedVariables false

namespace Calendar

def IsLeap (year : Int) : Prop := year % 4 = 0 ∧ (year % 100 ≠ 0 ∨ year % 400 = 0)

instance (year : Int) : Decidable (IsLeap year) := inferInstanceAs (Decidable (_ ∧ _))

def daysInYear (year : Int) : Nat := if IsLeap year then 366 else 365

def daysInMonth (year : Int) (month : Nat) : Nat :=
  if month = 2 then if IsLeap year then 29 else 28
  else if month = 4 ∨ month = 6 ∨ month = 9 ∨ month = 11 then 30
  else 31

structure Date where
  year : Int
  month : Nat
  day : Nat
  month_pos : 1 ≤ month
  month_le : month ≤ 12
  day_pos : 1 ≤ day
  day_le : day ≤ daysInMonth year month

/-- the days from 1970-01-01 to the first day of the year, negative before 1970 -/
noncomputable def daysBeforeYear (year : Int) : Int :=
  ∑ y ∈ Finset.Ico 1970 year, (daysInYear y : Int) - ∑ y ∈ Finset.Ico year 1970, (daysInYear y : Int)

def daysBeforeMonth (year : Int) (month : Nat) : Nat :=
  ∑ m ∈ Finset.Ico 1 month, daysInMonth year m

noncomputable def Date.dayNumber (d : Date) : Int :=
  daysBeforeYear d.year + daysBeforeMonth d.year d.month + (d.day - 1 : Nat)

/-! ## years -/

theorem daysBeforeYear_succ (year : Int) :
    daysBeforeYear (year + 1) = daysBeforeYear year + daysInYear year := by
  unfold daysBeforeYear
  rcases lt_or_ge year 1970 with h | h
  · have h₁ : Finset.Ico 1970 year = ∅ := Finset.Ico_eq_empty_of_le h.le
    have h₂ : Finset.Ico 1970 (year + 1) = ∅ := Finset.Ico_eq_empty_of_le (Int.add_one_le_of_lt h)
    have h₃ : Finset.Ico year 1970 = insert year (Finset.Ico (year + 1) 1970) :=
      (Finset.insert_Ico_add_one_left_eq_Ico h).symm
    rw [h₁, h₂, h₃, Finset.sum_insert (by simp)]
    simp
  · have h₁ : Finset.Ico year 1970 = ∅ := Finset.Ico_eq_empty_of_le h
    have h₂ : Finset.Ico (year + 1) 1970 = ∅ := Finset.Ico_eq_empty_of_le (by omega)
    have h₃ : Finset.Ico 1970 (year + 1) = insert year (Finset.Ico 1970 year) :=
      (Finset.insert_Ico_right_eq_Ico_add_one h).symm
    rw [h₁, h₂, h₃, Finset.sum_insert (by simp)]
    simp
    ring

/-- every fourth year is a leap year, but of the hundredth only every fourth -/
theorem daysBeforeYear_eq (year : Int) :
    daysBeforeYear year = 365 * (year - 1970) + ((year - 1) / 4 - (year - 1) / 100 + (year - 1) / 400) - 477 := by
  have hstep : ∀ y : Int, 365 * (y + 1 - 1970) + ((y + 1 - 1) / 4 - (y + 1 - 1) / 100 + (y + 1 - 1) / 400) - 477 =
      365 * (y - 1970) + ((y - 1) / 4 - (y - 1) / 100 + (y - 1) / 400) - 477 + daysInYear y := by
    intro y
    unfold daysInYear
    by_cases h : IsLeap y
    · rw [if_pos h]
      unfold IsLeap at h
      push_cast
      omega
    · rw [if_neg h]
      unfold IsLeap at h
      push_cast
      omega
  refine Int.inductionOn' year 1970 (by simp [daysBeforeYear]) ?_ ?_
  · intro y hy ih
    rw [daysBeforeYear_succ, ih, hstep]
  · intro y hy ih
    have hs := daysBeforeYear_succ (y - 1)
    have ht := hstep (y - 1)
    rw [sub_add_cancel] at hs ht
    linarith

theorem daysBeforeYear_mono : Monotone daysBeforeYear := by
  refine monotone_int_of_le_succ fun year => ?_
  rw [daysBeforeYear_succ]
  exact le_add_of_nonneg_right (Int.natCast_nonneg _)

/-! ## months -/

theorem daysBeforeMonth_succ (year : Int) {month : Nat} (h : 1 ≤ month) :
    daysBeforeMonth year (month + 1) = daysBeforeMonth year month + daysInMonth year month :=
  Finset.sum_Ico_succ_top h _

theorem daysBeforeMonth_mono (year : Int) : Monotone (daysBeforeMonth year) := fun m m' h =>
  Finset.sum_le_sum_of_subset (Finset.Ico_subset_Ico_right h)

/-- the whole year -/
theorem daysBeforeMonth_thirteen (year : Int) : daysBeforeMonth year 13 = daysInYear year := by
  have h : Finset.Ico 1 13 = {1, 2, 3, 4, 5, 6, 7, 8, 9, 10, 11, 12} := by decide
  rw [daysBeforeMonth, h, daysInYear]
  by_cases hl : IsLeap year
  · simp [daysInMonth, hl]
  · simp [daysInMonth, hl]

/-! ## the order -/

namespace Date

def key (d : Date) : ℤ ×ₗ ℕ ×ₗ ℕ := toLex (d.year, toLex (d.month, d.day))

theorem key_inj {d d' : Date} (h : d.key = d'.key) : d = d' := by
  obtain ⟨y, m, a, _, _, _, _⟩ := d
  obtain ⟨y', m', a', _, _, _, _⟩ := d'
  obtain ⟨rfl, h⟩ := Prod.mk.inj (toLex.injective h)
  obtain ⟨rfl, rfl⟩ := Prod.mk.inj (toLex.injective h)
  rfl

/-- a day is within its month -/
theorem day_le_month (d : Date) :
    daysBeforeMonth d.year d.month + (d.day - 1) < daysBeforeMonth d.year (d.month + 1) := by
  rw [daysBeforeMonth_succ _ d.month_pos]
  have hpos := d.day_pos
  have hle := d.day_le
  omega

theorem le_dayNumber (d : Date) : daysBeforeYear d.year ≤ d.dayNumber := by
  unfold dayNumber
  omega

theorem dayNumber_lt_year (d : Date) : d.dayNumber < daysBeforeYear (d.year + 1) := by
  have hmonth := d.day_le_month
  have hyear : daysBeforeMonth d.year (d.month + 1) ≤ daysBeforeMonth d.year 13 :=
    daysBeforeMonth_mono d.year (Nat.succ_le_succ d.month_le)
  rw [daysBeforeMonth_thirteen] at hyear
  rw [daysBeforeYear_succ]
  unfold dayNumber
  omega

theorem dayNumber_lt {d d' : Date} (h : d.key < d'.key) : d.dayNumber < d'.dayNumber := by
  rw [key, key, Prod.Lex.toLex_lt_toLex, Prod.Lex.toLex_lt_toLex] at h
  rcases h with hyear | ⟨hyear, hmonth | ⟨hmonth, hday⟩⟩
  · have hmono := daysBeforeYear_mono (Int.add_one_le_of_lt hyear)
    exact (d.dayNumber_lt_year.trans_le hmono).trans_le d'.le_dayNumber
  · have hyear : d.year = d'.year := hyear
    have hmono : daysBeforeMonth d.year (d.month + 1) ≤ daysBeforeMonth d.year d'.month :=
      daysBeforeMonth_mono d.year (Nat.succ_le_of_lt hmonth)
    have hend := d.day_le_month
    unfold dayNumber
    rw [← hyear]
    omega
  · have hyear : d.year = d'.year := hyear
    have hmonth : d.month = d'.month := hmonth
    have hday : d.day < d'.day := hday
    have hpos := d.day_pos
    unfold dayNumber
    rw [← hyear, ← hmonth]
    omega

/-- The day numbers are in the order of year, month and day. -/
theorem dayNumber_lt_iff {d d' : Date} : d.dayNumber < d'.dayNumber ↔ d.key < d'.key := by
  refine ⟨fun h => ?_, dayNumber_lt⟩
  rcases lt_trichotomy d.key d'.key with hlt | he | hgt
  · exact hlt
  · rw [key_inj he] at h
    exact absurd h (lt_irrefl _)
  · exact absurd (h.trans (dayNumber_lt hgt)) (lt_irrefl _)

theorem dayNumber_inj {d d' : Date} (h : d.dayNumber = d'.dayNumber) : d = d' := by
  apply key_inj
  rcases lt_trichotomy d.key d'.key with hlt | he | hgt
  · exact absurd h (dayNumber_lt hlt).ne
  · exact he
  · exact absurd h (dayNumber_lt hgt).ne'

end Date

/-! ## years from March -/

/-- With the years from March on, the leap day is the last day of a year, and the days before a month are
linear but for a rounding. -/
theorem dayNumber_march (d : Date) :
    let year := d.year - (if d.month ≤ 2 then 1 else 0)
    let month := if d.month ≤ 2 then d.month + 9 else d.month - 3
    d.dayNumber = 365 * year + year / 4 - year / 100 + year / 400 +
      ((153 * month + 2) / 5 : Nat) + (d.day - 1 : Nat) - 719468 := by
  have hlo := d.month_pos
  have hhi := d.month_le
  unfold Date.dayNumber
  rw [daysBeforeYear_eq]
  have hmonths : ∀ month, 1 ≤ month → month ≤ 12 → daysBeforeMonth d.year month =
      if month ≤ 2 then 31 * (month - 1)
      else (153 * (month - 3) + 2) / 5 + (if IsLeap d.year then 60 else 59) := by
    intro month h₁ h₂
    unfold daysBeforeMonth
    by_cases hl : IsLeap d.year
    · interval_cases month <;> simp [Finset.sum_Ico_succ_top, daysInMonth, hl]
    · interval_cases month <;> simp [Finset.sum_Ico_succ_top, daysInMonth, hl]
  rw [hmonths d.month hlo hhi]
  by_cases hm : d.month ≤ 2
  · simp only [if_pos hm]
    have hmp : (153 * (d.month + 9) + 2) / 5 = 306 + 31 * (d.month - 1) := by omega
    rw [hmp]
    omega
  · simp only [if_neg hm]
    by_cases hl : IsLeap d.year
    · rw [if_pos hl]
      unfold IsLeap at hl
      omega
    · rw [if_neg hl]
      unfold IsLeap at hl
      omega

end Calendar
