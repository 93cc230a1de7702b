/-
**Moments in the civil calendar.**

* `civilOfDay`: year, month and day of a day counted from 1 January 1970, in the Gregorian calendar
  extended in both directions;
* `Moment`: an instant with an offset from universal time, and what its clock and calendar show;
* `isoWeek`: the week of a date and the year it belongs to. A week starts on Monday and belongs to
  the year of its Thursday.
-/

namespace Dialogue.Calendar

/-- A date of the Gregorian calendar. -/
structure CivilDate where
  year : Int
  month : Nat
  day : Nat
deriving DecidableEq, Repr

/-- Whether a year has a leap day. -/
def isLeap (year : Int) : Bool := year % 4 == 0 && (year % 100 != 0 || year % 400 == 0)

/-- The date of a day counted from 1 January 1970. Years are counted from March, so that a leap day
is the last one of its year. -/
def civilOfDay (day : Int) : CivilDate :=
  let shifted := day + 719468
  let era := shifted / 146097
  let dayOfEra := (shifted % 146097).toNat
  let yearOfEra :=
    (dayOfEra - dayOfEra / 1460 + dayOfEra / 36524 - dayOfEra / 146096) / 365
  let dayOfYear := dayOfEra - (365 * yearOfEra + yearOfEra / 4 - yearOfEra / 100)
  let monthFromMarch := (5 * dayOfYear + 2) / 153
  let month := if monthFromMarch < 10 then monthFromMarch + 3 else monthFromMarch - 9
  ⟨yearOfEra + era * 400 + (if month ≤ 2 then 1 else 0), month,
    dayOfYear - (153 * monthFromMarch + 2) / 5 + 1⟩

/-- The days of a common year before each month. -/
def daysBeforeMonth : List Nat := [0, 31, 59, 90, 120, 151, 181, 212, 243, 273, 304, 334]

/-- The place of a date in its year, counted from one. -/
def CivilDate.dayOfYear (date : CivilDate) : Nat :=
  daysBeforeMonth.getD (date.month - 1) 0 + date.day +
    (if isLeap date.year && decide (2 < date.month) then 1 else 0)

/-- An instant: seconds since the beginning of 1970 in universal time, and nanoseconds. A leap
second is written by a thousand million nanoseconds or more. -/
structure Instant where
  seconds : Int := 0
  nanos : Nat := 0
deriving DecidableEq, Repr

/-- An instant seen at an offset from universal time, in seconds. -/
structure Moment where
  instant : Instant
  offset : Int := 0
deriving DecidableEq, Repr

namespace Moment

/-- The seconds that a clock at the place has counted. -/
def localSeconds (moment : Moment) : Int := moment.instant.seconds + moment.offset

/-- The days that a calendar at the place has counted. -/
def dayNumber (moment : Moment) : Int := moment.localSeconds / 86400

def date (moment : Moment) : CivilDate := civilOfDay moment.dayNumber

/-- The seconds since midnight. -/
def secondOfDay (moment : Moment) : Nat := (moment.localSeconds % 86400).toNat

def hour (moment : Moment) : Nat := moment.secondOfDay / 3600

def hour12 (moment : Moment) : Nat := if moment.hour % 12 = 0 then 12 else moment.hour % 12

def isAfternoon (moment : Moment) : Bool := 12 ≤ moment.hour

def minute (moment : Moment) : Nat := moment.secondOfDay / 60 % 60

/-- The second, which is 60 in a leap second. -/
def second (moment : Moment) : Nat :=
  moment.secondOfDay % 60 + moment.instant.nanos / 1000000000

/-- The nanoseconds of the second. -/
def nanosecond (moment : Moment) : Nat := moment.instant.nanos % 1000000000

def daysFromSunday (moment : Moment) : Nat := ((moment.dayNumber + 4) % 7).toNat

def daysFromMonday (moment : Moment) : Nat := ((moment.dayNumber + 3) % 7).toNat

/-- The week of the year, if weeks start `sinceStart` days ago and week 1 is the first whole one. -/
def weekFrom (moment : Moment) (sinceStart : Nat) : Nat :=
  (moment.date.dayOfYear + 6 - sinceStart) / 7

/-- The year of the Thursday of the week, and the number of that week. -/
def isoWeek (moment : Moment) : Int × Nat :=
  let thursday := civilOfDay (moment.dayNumber - moment.daysFromMonday + 3)
  (thursday.year, (thursday.dayOfYear - 1) / 7 + 1)

end Moment

end Dialogue.Calendar
