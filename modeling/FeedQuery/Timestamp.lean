import FeedQuery.Text

/-!
# Points in time

A point in time is a number of seconds since the start of 1970, in coordinated universal time.
`CivilDate.ofDays` is its date in the Gregorian calendar, reckoned in cycles of 400 years that start
in March, so that a leap day is the last day of its year.
-/

namespace FeedQuery

/-- A day of the Gregorian calendar. -/
structure CivilDate where
  /-- The year; the one before year 1 is year 0. -/
  year : Int
  /-- The month, from 1. -/
  month : Nat
  /-- The day of the month, from 1. -/
  day : Nat
deriving DecidableEq

/-- The days of 400 years. -/
def daysPerCycle : Int := 146097

/-- The days from the first of March of year 0 to the start of 1970. -/
def daysBefore1970 : Int := 719468

/-- The date that many days after the start of 1970. -/
def CivilDate.ofDays (days : Int) : CivilDate :=
  let shifted := days + daysBefore1970
  let cycle := shifted.fdiv daysPerCycle
  let inCycle := (shifted - cycle * daysPerCycle).toNat
  let yearInCycle := (inCycle - inCycle / 1460 + inCycle / 36524 - inCycle / 146096) / 365
  let inYear := inCycle - (365 * yearInCycle + yearInCycle / 4 - yearInCycle / 100)
  let fromMarch := (5 * inYear + 2) / 153
  let month := if fromMarch < 10 then fromMarch + 3 else fromMarch - 9
  let year := (yearInCycle : Int) + cycle * 400
  ⟨if month ≤ 2 then year + 1 else year, month, inYear - (153 * fromMarch + 2) / 5 + 1⟩

/-- A number with zeros in front, to so many digits. -/
def zeroPadded (digits n : Nat) : String :=
  let text := toString n
  Text.copies (digits - text.length) '0' ++ text

/-- A year in four digits; one that needs more, or is before year 0, with its sign. -/
def yearText (year : Int) : String :=
  let digits := zeroPadded 4 year.natAbs
  if year < 0 then "-" ++ digits else if 9999 < year then "+" ++ digits else digits

namespace Timestamp

/-- The seconds of a day. -/
def secondsPerDay : Int := 86400

/-- The first second of the calendar, at the start of the year -262143. -/
def first : Int := -8334601228800

/-- The last second of the calendar, at the end of the year 262142. -/
def last : Int := 8210266876799

/-- Whether a point in time is in the calendar. -/
def inCalendar (seconds : Int) : Bool := first ≤ seconds && seconds ≤ last

/-- A point in time as date and time of day. -/
def text (seconds : Int) : String :=
  let days := seconds.fdiv secondsPerDay
  let inDay := (seconds - days * secondsPerDay).toNat
  let date := CivilDate.ofDays days
  let time := [inDay / 3600, inDay / 60 % 60, inDay % 60].map (zeroPadded 2)
  let parts := [yearText date.year, zeroPadded 2 date.month, zeroPadded 2 date.day]
  "-".intercalate parts ++ " " ++ ":".intercalate time ++ " UTC"

end Timestamp

end FeedQuery
