import StreamConsumer.Text.Decimal
import StreamConsumer.Time.Calendar
import StreamConsumer.Time.Instant

/-!
# Texts of durations and instants

A duration is written in the largest of its units that it fills, as an exact decimal number.  An instant is written as
its date and its time of day in universal time; a leap second has the number after that of the second it follows, which
is 60 at the end of a minute.
-/

namespace StreamConsumer

open Text

namespace Duration

def text (d : Duration) : List Char :=
  if 0 < d.secs then decimal d.secs.toNat d.nanos 9 ++ ['s']
  else if 1000000 ≤ d.nanos then decimal (d.nanos / 1000000) (d.nanos % 1000000) 6 ++ ['m', 's']
  else if 1000 ≤ d.nanos then decimal (d.nanos / 1000) (d.nanos % 1000) 3 ++ ['µ', 's']
  else digits d.nanos ++ ['n', 's']

end Duration

namespace CivilDate

/-- A year has four digits; one that needs more, or lies before the year 0, has a sign and at least four digits. -/
def yearText (year : Int) : List Char :=
  if year < 0 then '-' :: atLeastDigits 4 year.natAbs
  else if 9999 < year then '+' :: digits year.toNat
  else fixedDigits 4 year.toNat

def text (date : CivilDate) : List Char :=
  yearText date.year ++ '-' :: fixedDigits 2 date.month ++ '-' :: fixedDigits 2 date.day

end CivilDate

namespace Instant

/-- Part of a second in 3, 6 or 9 digits, the fewest that are exact, and none for a whole second. -/
def fractionText (nanos : Nat) : List Char :=
  if nanos = 0 then []
  else if nanos % 1000000 = 0 then '.' :: fixedDigits 3 (nanos / 1000000)
  else if nanos % 1000 = 0 then '.' :: fixedDigits 6 (nanos / 1000)
  else '.' :: fixedDigits 9 nanos

/-- The time of day by hour, minute and second, and the part of the second. -/
def timeText (secondOfDay nanos : Nat) : List Char :=
  let second := secondOfDay % 60 + nanos / nanosPerSecond
  fixedDigits 2 (secondOfDay / 3600) ++ ':' :: fixedDigits 2 (secondOfDay / 60 % 60) ++ ':' :: fixedDigits 2 second
    ++ fractionText (nanos % nanosPerSecond)

def text (t : Instant) : List Char :=
  (CivilDate.ofDay t.day).text ++ 'T' :: timeText t.secondOfDay.toNat t.nanos ++ ['Z']

end Instant

end StreamConsumer
