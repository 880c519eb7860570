/-!
# Moments and dates

A moment counts seconds since the start of 1970 and nanoseconds within the second, in the zone
whose offset is zero. `Moment.date` finds the day of the calendar: the years are counted from
March on, so that the leap day is the last of its year, and 400 years make a cycle.
-/

namespace LogSift

/-- A moment in time. -/
structure Moment where
  /-- Seconds since the start of 1970. -/
  seconds : Nat
  /-- Nanoseconds within the second. -/
  nanos : Nat
deriving DecidableEq, Repr, Inhabited

/-- A day of the calendar. -/
structure Date where
  year : Nat
  /-- From one to twelve. -/
  month : Nat
  /-- From one on. -/
  day : Nat
deriving DecidableEq, Repr, Inhabited

namespace Date

/-- Is the year a leap year? -/
def isLeap (year : Nat) : Bool := year % 4 = 0 && (year % 100 != 0 || year % 400 = 0)

/-- The number of days in the months before a month. -/
def daysBefore (leap : Bool) (month : Nat) : Nat :=
  ([0, 31, 59, 90, 120, 151, 181, 212, 243, 273, 304, 334].getD (month - 1) 0) +
    if leap && 2 < month then 1 else 0

/-- The number of the day in its year, from one on. -/
def ordinal (d : Date) : Nat := daysBefore (isLeap d.year) d.month + d.day

/-- The day with a number, day zero being the first of 1970. -/
def ofDays (n : Nat) : Date :=
  let z := n + 719468
  let era := z / 146097
  let dayOfEra := z % 146097
  let yearOfEra :=
    (dayOfEra - dayOfEra / 1460 + dayOfEra / 36524 - dayOfEra / 146096) / 365
  let dayOfYear := dayOfEra - (365 * yearOfEra + yearOfEra / 4 - yearOfEra / 100)
  let m := (5 * dayOfYear + 2) / 153
  let month := if m < 10 then m + 3 else m - 9
  { year := yearOfEra + era * 400 + if month ≤ 2 then 1 else 0
    month
    day := dayOfYear - (153 * m + 2) / 5 + 1 }

end Date

namespace Moment

/-- The number of the day since the start of 1970. -/
def days (t : Moment) : Nat := t.seconds / 86400

/-- The day. -/
def date (t : Moment) : Date := Date.ofDays t.days

/-- The hour of the day. -/
def hour (t : Moment) : Nat := t.seconds % 86400 / 3600

/-- The minute of the hour. -/
def minute (t : Moment) : Nat := t.seconds % 3600 / 60

/-- The second of the minute. -/
def second (t : Moment) : Nat := t.seconds % 60

/-- The day of the week, Sunday being zero. -/
def weekday (t : Moment) : Nat := (t.days + 4) % 7

/-- A moment some seconds later. -/
def later (t : Moment) (seconds : Nat) : Moment := { t with seconds := t.seconds + seconds }

/-- The number of the week in which all weeks belong to one year: a week starts on Monday, and
belongs to the year that its Thursday is in. The first number is that year. -/
def isoWeek (t : Moment) : Nat × Nat :=
  let thursday := Date.ofDays (t.days + 3 - (t.weekday + 6) % 7)
  (thursday.year, (thursday.ordinal - 1) / 7 + 1)

end Moment

end LogSift
