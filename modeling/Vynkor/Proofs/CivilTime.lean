import Vynkor.Lib.Calendar
import Vynkor.Timestamp

/-! The printed date and time are those of the Gregorian calendar. The year is cut into
centuries, spans of four years and single years, counted from March. -/

namespace Vynkor
open Lib Calendar

/-- The days before the March of a year, counted from the March of year 0. -/
def daysBeforeMarch (year : Int) : Int := 365 * year + year / 4 - year / 100 + year / 400

private theorem daysBeforeYear_march (year : Int) : daysBeforeYear (year + 1) = daysBeforeMarch year + 366 := by
  unfold daysBeforeYear daysBeforeMarch
  omega

private theorem month_after_february {year day mp : Int} (bounds : 0 ≤ mp ∧ mp < 10) (lower : (153 * mp + 2) / 5 ≤ day)
    (upper : day < (153 * (mp + 1) + 2) / 5) :
    ∃ date : Date, date.year = year ∧ date.month = mp + 3 ∧ date.day = day - (153 * mp + 2) / 5 + 1 ∧
      date.dayCount = daysBeforeMarch year + day - 719468 := by
  have valid : day - (153 * mp + 2) / 5 + 1 ≤ monthLength year (mp + 3) := by
    unfold monthLength
    rw [if_neg (by omega)]
    split <;> omega
  refine ⟨⟨year, mp + 3, day - (153 * mp + 2) / 5 + 1, by omega, by omega, valid⟩, rfl, rfl, rfl, ?_⟩
  have following := daysBeforeYear_march year
  rw [daysBeforeYear_succ] at following
  unfold Date.dayCount daysBeforeMonth at *
  dsimp only at following ⊢
  rw [if_neg (by omega)] at following ⊢
  omega

private theorem month_before_march {year day mp : Int} (bounds : 10 ≤ mp ∧ mp < 12) (lower : (153 * mp + 2) / 5 ≤ day)
    (upper : day < (153 * (mp + 1) + 2) / 5) (leap : day ≤ 365 ∧ (day = 365 → IsLeap (year + 1))) :
    ∃ date : Date, date.year = year + 1 ∧ date.month = mp - 9 ∧ date.day = day - (153 * mp + 2) / 5 + 1 ∧
      date.dayCount = daysBeforeMarch year + day - 719468 := by
  have valid : day - (153 * mp + 2) / 5 + 1 ≤ monthLength (year + 1) (mp - 9) := by
    unfold monthLength
    split
    · split
      · omega
      next common =>
        have := mt leap.2 common
        omega
    · rw [if_neg (by omega)]
      omega
  refine ⟨⟨year + 1, mp - 9, day - (153 * mp + 2) / 5 + 1, by omega, by omega, valid⟩, rfl, rfl, rfl, ?_⟩
  have following := daysBeforeYear_march year
  unfold Date.dayCount daysBeforeMonth
  dsimp only
  rw [if_pos (by omega)]
  omega
private theorem i64_bind {α : Type} {value : Int} {next : Int → Option α}
    (fits : -9223372036854775808 ≤ value ∧ value ≤ 9223372036854775807) : (i64 value).bind next = next value := by
  unfold i64
  rw [if_pos fits]
  rfl

/-- A day of an era, by the century, the four years and the year it is in. Only the last year of
four has a day 365, and of the last four years of a century only those of the last century. -/
structure EraDay (doe : Int) where
  century : Int
  four : Int
  year : Int
  day : Int
  centuryBounds : 0 ≤ century ∧ century ≤ 3
  fourBounds : 0 ≤ four ∧ four ≤ 24
  yearBounds : 0 ≤ year ∧ year ≤ 3
  dayBounds : 0 ≤ day ∧ day ≤ 365
  leapDay : day = 365 → year = 3 ∧ (four = 24 → century = 3)
  whole : doe = 36524 * century + 1461 * four + 365 * year + day

private theorem eraDay_exists {doe : Int} (inside : 0 ≤ doe ∧ doe < 146097) : Nonempty (EraDay doe) := by
  by_cases last : doe = 146096
  · exact ⟨3, 24, 3, 365, by omega, by omega, by omega, by omega, by omega, by omega⟩
  by_cases leap : doe % 36524 % 1461 = 1460
  · exact ⟨doe / 36524, doe % 36524 / 1461, 3, 365, by omega, by omega, by omega, by omega, by omega, by omega⟩
  · exact ⟨doe / 36524, doe % 36524 / 1461, doe % 36524 % 1461 / 365, doe % 36524 % 1461 % 365,
      by omega, by omega, by omega, by omega, by omega, by omega⟩

namespace EraDay
variable {doe : Int} (place : EraDay doe)

def yearOfEra : Int := 100 * place.century + 4 * place.four + place.year

private theorem yearOfEra_eq : (doe - doe / 1460 + doe / 36524 - doe / 146096) / 365 = place.yearOfEra := by
  obtain ⟨century, four, year, day, centuryBounds, fourBounds, yearBounds, dayBounds, leapDay, whole⟩ := place
  unfold yearOfEra
  dsimp only
  by_cases last : doe = 146096
  · subst last
    omega
  · have centuries : doe / 36524 = century := by omega
    have short : doe / 146096 = 0 := by omega
    have spans : doe / 1460 = 25 * century + four + (24 * century + four + 365 * year + day) / 1460 := by omega
    rw [centuries, short, spans]
    omega

private theorem day_eq : doe - (365 * place.yearOfEra + place.yearOfEra / 4 - place.yearOfEra / 100 + place.yearOfEra / 146096) =
    place.day := by
  obtain ⟨century, four, year, day, centuryBounds, fourBounds, yearBounds, dayBounds, leapDay, whole⟩ := place
  unfold yearOfEra
  dsimp only
  omega

theorem leap (era : Int) (last : place.day = 365) : IsLeap (place.yearOfEra + era * 400 + 1) := by
  obtain ⟨century, four, year, day, centuryBounds, fourBounds, yearBounds, dayBounds, leapDay, whole⟩ := place
  unfold yearOfEra IsLeap
  dsimp only at *
  omega

private theorem yearOfEra_bounds : 0 ≤ place.yearOfEra ∧ place.yearOfEra < 400 := by
  obtain ⟨century, four, year, day, centuryBounds, fourBounds, yearBounds, dayBounds, leapDay, whole⟩ := place
  unfold yearOfEra
  dsimp only
  omega

private theorem daysBeforeMarch_eq (era : Int) : daysBeforeMarch (place.yearOfEra + era * 400) + place.day = era * 146097 + doe := by
  have whole := place.day_eq
  have bounds := place.yearOfEra_bounds
  unfold daysBeforeMarch
  omega

end EraDay

private theorem marchYear_eq {days : Int} (bounds : 0 ≤ days ∧ days ≤ 9000000000000000000) :
    ∃ year day, marchYear days = some (year, day) ∧ daysBeforeMarch year + day = days + 719468 ∧
      (0 ≤ day ∧ day ≤ 365) ∧ (day = 365 → IsLeap (year + 1)) ∧ 0 ≤ year ∧ year ≤ days + 719468 := by
  unfold marchYear
  simp only [Option.bind_eq_bind]
  rw [i64_bind (by omega)]
  have whole : days + 719468 = (days + 719468) / 146097 * 146097 + (days + 719468) % 146097 := by omega
  have inside : 0 ≤ (days + 719468) % 146097 ∧ (days + 719468) % 146097 < 146097 := by omega
  generalize (days + 719468) / 146097 = era at *
  generalize (days + 719468) % 146097 = doe at *
  obtain ⟨place⟩ := eraDay_exists inside
  have yearBounds := place.yearOfEra_bounds
  have dayBounds := place.dayBounds
  simp only [Int.tdiv_eq_ediv_of_nonneg inside.1]
  rw [i64_bind (by omega), i64_bind (by omega), i64_bind (by omega), Int.tdiv_eq_ediv_of_nonneg (by omega),
    place.yearOfEra_eq]
  simp only [Int.tdiv_eq_ediv_of_nonneg yearBounds.1]
  rw [i64_bind (by omega), i64_bind (by omega), i64_bind (by omega), i64_bind (by omega), i64_bind (by omega),
    i64_bind (by omega), i64_bind (by omega), place.day_eq]
  refine ⟨place.yearOfEra + era * 400, place.day, rfl, ?_, dayBounds, place.leap era, by omega, by omega⟩
  rw [place.daysBeforeMarch_eq, whole]

private theorem civilDate_eq {year day : Int} (range : 0 ≤ year ∧ year ≤ 9100000000000000000) (bounds : 0 ≤ day ∧ day ≤ 365)
    (leap : day = 365 → IsLeap (year + 1)) :
    ∃ date : Date, civilDate year day = some (date.year, date.month, date.day) ∧
      date.dayCount = daysBeforeMarch year + day - 719468 := by
  unfold civilDate
  simp only [Option.bind_eq_bind]
  rw [i64_bind (by omega), i64_bind (by omega), Int.tdiv_eq_ediv_of_nonneg (by omega)]
  -- the months from March on begin at the days (153 * mp + 2) / 5
  have lower : (153 * ((5 * day + 2) / 153) + 2) / 5 ≤ day := by omega
  have upper : day < (153 * ((5 * day + 2) / 153 + 1) + 2) / 5 := by omega
  have monthBounds : 0 ≤ (5 * day + 2) / 153 ∧ (5 * day + 2) / 153 < 12 := by omega
  generalize (5 * day + 2) / 153 = mp at *
  rw [i64_bind (by omega), i64_bind (by omega), Int.tdiv_eq_ediv_of_nonneg (by omega), i64_bind (by omega),
    i64_bind (by omega)]
  by_cases early : mp < 10
  · obtain ⟨date, yearIs, monthIs, dayIs, count⟩ := @month_after_february year day mp ⟨monthBounds.1, early⟩ lower upper
    refine ⟨date, ?_, count⟩
    rw [if_pos early, i64_bind (by omega), if_neg (by omega), yearIs, monthIs, dayIs]
    rfl
  · obtain ⟨date, yearIs, monthIs, dayIs, count⟩ := @month_before_march year day mp (by omega) lower upper
      ⟨bounds.2, leap⟩
    refine ⟨date, ?_, count⟩
    rw [if_neg early, i64_bind (by omega), if_pos (by omega), i64_bind (by omega), yearIs, monthIs, dayIs]

private theorem toInt_toInt64 {value : UInt64} (small : value.toNat < 9223372036854775808) : value.toInt64.toInt = value.toNat := by
  exact BitVec.toInt_eq_toNat_of_lt (by change 2 * value.toNat < _; omega)

/-- The date is the one so many days after the epoch, by the calendar; nothing overflows on the way. -/
theorem format_ts_gregorian (epochSecs : UInt64) :
    ∃ (date : Date) (time : Time),
      date.dayCount = epochSecs.toNat / 86400 ∧ date = Date.next^[epochSecs.toNat / 86400] Date.epoch ∧
      time.seconds = epochSecs.toNat % 86400 ∧
      formatTs epochSecs = some (zeroPadded 4 date.year ++ "-" ++ zeroPadded 2 date.month ++ "-" ++
        zeroPadded 2 date.day ++ " " ++ zeroPadded 2 time.hour ++ ":" ++ zeroPadded 2 time.minute ++ ":" ++
        zeroPadded 2 time.second) := by
  have bound := epochSecs.toNat_lt
  have days : (epochSecs / 86400).toInt64.toInt = (epochSecs.toNat / 86400 : Nat) := by
    rw [toInt_toInt64] <;> rw [UInt64.toNat_div]
    · rfl
    · change epochSecs.toNat / 86400 < _
      omega
  have secsOfDay : (epochSecs % 86400).toNat = epochSecs.toNat % 86400 := UInt64.toNat_mod ..
  obtain ⟨year, day, march, sum, bounds, leap, low, high⟩ := @marchYear_eq (epochSecs.toNat / 86400 : Nat) (by omega)
  obtain ⟨date, civil, count⟩ := civilDate_eq ⟨low, by omega⟩ bounds leap
  have counted : date.dayCount = (epochSecs.toNat / 86400 : Nat) := by omega
  let time : Time := ⟨epochSecs.toNat % 86400 / 3600, epochSecs.toNat % 86400 % 3600 / 60,
    epochSecs.toNat % 86400 % 3600 % 60, by omega, by omega, by omega⟩
  refine ⟨date, time, counted, eq_iterate_of_dayCount counted, ?_, ?_⟩
  · change epochSecs.toNat % 86400 / 3600 * 3600 + epochSecs.toNat % 86400 % 3600 / 60 * 60 +
      epochSecs.toNat % 86400 % 3600 % 60 = epochSecs.toNat % 86400
    omega
  · unfold formatTs
    dsimp only
    rw [days, march, secsOfDay]
    dsimp only [Option.bind_eq_bind, Option.bind_some]
    rw [civil]
    rfl

end Vynkor
