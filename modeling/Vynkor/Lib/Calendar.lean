import Mathlib.Algebra.Order.Group.Nat
import Mathlib.Logic.Function.Iterate

/-! The proleptic Gregorian calendar: valid dates, the day after a date, and the
number of days since 1 January 1970. -/

namespace Vynkor.Lib.Calendar

def IsLeap (year : Int) : Prop := year % 4 = 0 ∧ (year % 100 ≠ 0 ∨ year % 400 = 0)

instance (year : Int) : Decidable (IsLeap year) := inferInstanceAs (Decidable (_ ∧ _))

def monthLength (year month : Int) : Int :=
  if month = 2 then if IsLeap year then 29 else 28
  else if month = 4 ∨ month = 6 ∨ month = 9 ∨ month = 11 then 30
  else 31

@[ext]
structure Date where
  year : Int
  month : Int
  day : Int
  monthValid : 1 ≤ month ∧ month ≤ 12
  dayValid : 1 ≤ day ∧ day ≤ monthLength year month

structure Time where
  hour : Nat
  minute : Nat
  second : Nat
  hourValid : hour < 24
  minuteValid : minute < 60
  secondValid : second < 60

def Time.seconds (time : Time) : Nat := time.hour * 3600 + time.minute * 60 + time.second

theorem monthLength_pos (year month : Int) : 1 ≤ monthLength year month := by
  unfold monthLength
  split
  · split <;> omega
  · split <;> omega

/-- The days from 1 January of year 0: every year has 365, and one more is due for each leap
year before this one. -/
def daysBeforeYear (year : Int) : Int := 365 * year + (year + 3) / 4 - (year + 99) / 100 + (year + 399) / 400

/-- The first term counts as if February had 30 days. -/
def daysBeforeMonth (year month : Int) : Int :=
  (367 * month - 362) / 12 - if month ≤ 2 then 0 else if IsLeap year then 1 else 2

namespace Date

def epoch : Date := ⟨1970, 1, 1, by decide, by decide⟩

/-- The days from the epoch to this date. -/
def dayCount (date : Date) : Int :=
  daysBeforeYear date.year + daysBeforeMonth date.year date.month + date.day - 1 - 719528

/-- The day after. -/
def next (date : Date) : Date :=
  if inside : date.day < monthLength date.year date.month then
    { date with day := date.day + 1, dayValid := by have := date.dayValid; omega }
  else if early : date.month < 12 then
    ⟨date.year, date.month + 1, 1, by have := date.monthValid; omega, by simp [monthLength_pos]⟩
  else ⟨date.year + 1, 1, 1, by decide, by simp [monthLength_pos]⟩

end Date

theorem daysBeforeMonth_succ {year month : Int} (valid : 1 ≤ month ∧ month < 12) :
    daysBeforeMonth year (month + 1) = daysBeforeMonth year month + monthLength year month := by
  -- omega alone does not see through the term for all months at once
  obtain rfl | rfl | rfl | rfl | later : month = 1 ∨ month = 2 ∨ month = 7 ∨ month = 8 ∨
    (3 ≤ month ∧ month ≠ 7 ∧ month ≠ 8) := by omega
  · rfl
  · by_cases leap : IsLeap year <;> simp [daysBeforeMonth, monthLength, leap]
  · by_cases leap : IsLeap year <;> simp [daysBeforeMonth, monthLength, leap]
  · by_cases leap : IsLeap year <;> simp [daysBeforeMonth, monthLength, leap]
  · unfold daysBeforeMonth monthLength
    rw [if_neg (show ¬month + 1 ≤ 2 by omega), if_neg (show ¬month ≤ 2 by omega), if_neg (show ¬month = 2 by omega)]
    split <;> omega

/-- December is the last month of a year, and the leap years are those that the count foresees. -/
theorem daysBeforeYear_succ (year : Int) :
    daysBeforeYear (year + 1) = daysBeforeYear year + daysBeforeMonth year 12 + 31 := by
  unfold daysBeforeYear daysBeforeMonth IsLeap
  split <;> omega

theorem dayCount_next (date : Date) : date.next.dayCount = date.dayCount + 1 := by
  obtain ⟨year, month, day, monthValid, dayValid⟩ := date
  unfold Date.next
  split
  next inside =>
    unfold Date.dayCount
    dsimp only
    omega
  next last =>
    dsimp only at last
    split
    next early =>
      dsimp only at early
      have following := @daysBeforeMonth_succ year month ⟨monthValid.1, early⟩
      unfold Date.dayCount
      dsimp only
      omega
    next late =>
      dsimp only at late
      have december : month = 12 := by omega
      have following := daysBeforeYear_succ year
      have first : daysBeforeMonth (year + 1) 1 = 0 := rfl
      have length : monthLength year 12 = 31 := rfl
      subst december
      unfold Date.dayCount
      dsimp only
      omega

/-- The count is that of the days which pass. -/
theorem dayCount_iterate (days : Nat) (date : Date) : (Date.next^[days] date).dayCount = date.dayCount + days := by
  induction days with
  | zero => simp
  | succ days ih =>
    rw [Function.iterate_succ_apply', dayCount_next, ih]
    omega

theorem daysBeforeMonth_nonneg {year month : Int} (valid : 1 ≤ month ∧ month ≤ 12) : 0 ≤ daysBeforeMonth year month := by
  unfold daysBeforeMonth
  split
  · omega
  · split <;> omega

/-- A month ends before any later one of the same year begins. -/
theorem month_ends {year first second : Int} (low : 1 ≤ first) (before : first < second) (high : second ≤ 12) :
    daysBeforeMonth year first + monthLength year first ≤ daysBeforeMonth year second := by
  rw [← daysBeforeMonth_succ ⟨low, by omega⟩]
  unfold daysBeforeMonth
  by_cases leap : IsLeap year
  · rw [if_pos leap]
    split <;> split <;> omega
  · rw [if_neg leap]
    split <;> split <;> omega

theorem year_ends {year month : Int} (valid : 1 ≤ month ∧ month ≤ 12) :
    daysBeforeYear year + daysBeforeMonth year month + monthLength year month ≤ daysBeforeYear (year + 1) := by
  rw [daysBeforeYear_succ]
  by_cases december : month = 12
  · subst december
    change _ + _ + 31 ≤ _
    omega
  · have ends := @month_ends year month 12 valid.1 (by omega) (by omega)
    omega

theorem daysBeforeYear_mono {first second : Int} (before : first ≤ second) :
    daysBeforeYear first ≤ daysBeforeYear second := by
  unfold daysBeforeYear
  omega

/-- An earlier date has a smaller count. -/
theorem dayCount_lt {first second : Date}
    (before : first.year < second.year ∨
      first.year = second.year ∧ (first.month < second.month ∨ first.month = second.month ∧ first.day < second.day)) :
    first.dayCount < second.dayCount := by
  obtain ⟨year, month, day, monthValid, dayValid⟩ := first
  obtain ⟨laterYear, laterMonth, laterDay, laterMonthValid, laterDayValid⟩ := second
  unfold Date.dayCount
  dsimp only at before ⊢
  rcases before with earlier | ⟨rfl, earlier | ⟨rfl, earlier⟩⟩
  · have ends := @year_ends year month monthValid
    have later := @daysBeforeYear_mono (year + 1) laterYear earlier
    have starts := @daysBeforeMonth_nonneg laterYear laterMonth laterMonthValid
    omega
  · have ends := @month_ends year month laterMonth monthValid.1 earlier laterMonthValid.2
    omega
  · omega

/-- No two dates have the same count. -/
theorem dayCount_injective : Function.Injective Date.dayCount := by
  intro first second same
  have notBefore := mt (@dayCount_lt first second) (by omega)
  have notAfter := mt (@dayCount_lt second first) (by omega)
  apply Date.ext <;> omega

/-- A count that is not negative is that of the date so many days after the epoch. -/
theorem eq_iterate_of_dayCount {date : Date} {days : Nat} (count : date.dayCount = days) :
    date = Date.next^[days] Date.epoch := by
  apply dayCount_injective
  rw [dayCount_iterate, count]
  exact (Int.zero_add _).symm

end Vynkor.Lib.Calendar
