import Mathlib.Data.List.Basic

/-! How the command line prints an instant: the date and time in UTC, computed from the
seconds since the epoch without a library. -/

namespace Vynkor

/-- The value of an operation on `i64`; `none` where it overflows. -/
def i64 (value : Int) : Option Int :=
  if -9223372036854775808 ≤ value ∧ value ≤ 9223372036854775807 then some value else none

/-- The year that a day falls in and the day of that year, for years that begin in March and are
counted in eras of 400. -/
def marchYear (days : Int) : Option (Int × Int) := do
  let z ← i64 (days + 719468)
  let era := z / 146097
  let doe := z % 146097
  let yoe := (← i64 ((← i64 ((← i64 (doe - doe.tdiv 1460)) + doe.tdiv 36524)) - doe.tdiv 146096)).tdiv 365
  let y ← i64 (yoe + (← i64 (era * 400)))
  let before ← i64 ((← i64 ((← i64 ((← i64 (365 * yoe)) + yoe.tdiv 4)) - yoe.tdiv 100)) + yoe.tdiv 146096)
  let doy ← i64 (doe - before)
  some (y, doy)

/-- The civil year, month and day of a day of such a year. -/
def civilDate (y doy : Int) : Option (Int × Int × Int) := do
  let mp := (← i64 ((← i64 (5 * doy)) + 2)).tdiv 153
  let d ← i64 ((← i64 (doy - (← i64 ((← i64 (153 * mp)) + 2)).tdiv 5)) + 1)
  let m ← if mp < 10 then i64 (mp + 3) else i64 (mp - 9)
  let y ← if m ≤ 2 then i64 (y + 1) else some y
  some (y, m, d)

/-- A number in at least `width` places, filled up with zeros after the sign. -/
def zeroPadded (width : Nat) (value : Int) : String :=
  let sign := if value < 0 then "-" else ""
  let digits := toString value.natAbs
  sign ++ String.ofList (List.replicate (width - sign.length - digits.length) '0') ++ digits

def formatTs (epochSecs : UInt64) : Option String := do
  let days := (epochSecs / 86400).toInt64.toInt
  let secsOfDay := (epochSecs % 86400).toNat
  let (y, doy) ← marchYear days
  let (y, m, d) ← civilDate y doy
  some (zeroPadded 4 y ++ "-" ++ zeroPadded 2 m ++ "-" ++ zeroPadded 2 d ++ " " ++
    zeroPadded 2 (secsOfDay / 3600) ++ ":" ++ zeroPadded 2 (secsOfDay % 3600 / 60) ++ ":" ++
    zeroPadded 2 (secsOfDay % 3600 % 60))

end Vynkor
