/-!
# The civil calendar

Dates of the Gregorian calendar, extended without end in both directions, from the number of a day.  Years are counted
from March to February here, so that a leap day is the last day of its year; such years come in eras of 400, centuries of
100, leap cycles of 4 and single years, each of which falls short of a whole number of days only at its end.
-/

namespace StreamConsumer

/-- A day by year, month (1 to 12) and day of the month (1 to 31). -/
structure CivilDate where
  year : Int
  month : Nat
  day : Nat
  deriving DecidableEq

namespace CivilDate

/-- The days in 400 years. -/
def daysPerEra : Int := 146097

/-- The days from 0000-03-01 to 1970-01-01. -/
def epochShift : Int := 719468

/-- The years since the start of the era that were complete before day `n` of the era (from 0), and the day of the year
that follows them (from 0). -/
def yearOfEra (n : Nat) : Nat × Nat :=
  let century := min (n / 36524) 3
  let dayOfCentury := n - 36524 * century
  let cycle := dayOfCentury / 1461
  let dayOfCycle := dayOfCentury % 1461
  let year := min (dayOfCycle / 365) 3
  (100 * century + 4 * cycle + year, dayOfCycle - 365 * year)

/-- The month (March is 0) and the day of the month (from 0) of a day of the year that starts in March. -/
def monthOfYear (n : Nat) : Nat × Nat :=
  let month := (5 * n + 2) / 153
  (month, n - (153 * month + 2) / 5)

/-- The date of the day that comes `day` days after 1970-01-01. -/
def ofDay (day : Int) : CivilDate :=
  let shifted := day + epochShift
  let (year, dayOfYear) := yearOfEra (shifted % daysPerEra).toNat
  let (month, dayOfMonth) := monthOfYear dayOfYear
  let marchYear := shifted / daysPerEra * 400 + year
  if month < 10 then { year := marchYear, month := month + 3, day := dayOfMonth + 1 }
  else { year := marchYear + 1, month := month - 9, day := dayOfMonth + 1 }

end CivilDate

end StreamConsumer
