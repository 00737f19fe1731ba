/-!
# The calendar

An `Instant` is counted from the start of 1970, and a `Civil` is the date and the
time of day that it has in the Gregorian calendar, at no offset.
-/

namespace Templating

/-- So many seconds after the start of 1970, and nanoseconds after these. -/
structure Instant where
  seconds : Int
  nanoseconds : Nat

structure Civil where
  year : Int
  month : Nat
  day : Nat
  /-- The day of the year, from one on. -/
  ordinal : Nat
  /-- The day of the week, from Monday as zero on. -/
  weekday : Nat
  hour : Nat
  minute : Nat
  second : Nat
  nanosecond : Nat
  instant : Instant

namespace Calendar

def isLeap (year : Int) : Bool :=
  year % 4 == 0 && (year % 100 != 0 || year % 400 == 0)

def monthLength (year : Int) : Nat → Nat
  | 2 => if isLeap year then 29 else 28
  | 4 | 6 | 9 | 11 => 30
  | _ => 31

/-- The day number of the first of January, counted from 1970. -/
def yearStart (year : Int) : Int :=
  let y := year - 1
  365 * (year - 1970) + (y / 4 - y / 100 + y / 400) - (1969 / 4 - 1969 / 100 + 1969 / 400)

/-- The year of a day: the mean length of a year gives it, or one next to it. -/
def yearOfDay (day : Int) : Int :=
  let guess := 1970 + day * 400 / 146097
  if day < yearStart guess then guess - 1
  else if yearStart (guess + 1) ≤ day then guess + 1
  else guess

/-- The month and the day in it of the day of a year, counted from zero. -/
def monthOfDay (year : Int) (month : Nat) (day : Nat) : Nat → Nat × Nat
  | 0 => (month, day + 1)
  | months + 1 =>
    let length := monthLength year month
    if day < length then (month, day + 1) else monthOfDay year (month + 1) (day - length) months

end Calendar

namespace Civil

def ofInstant (i : Instant) : Civil :=
  let days := i.seconds / 86400
  let time := (i.seconds % 86400).toNat
  let year := Calendar.yearOfDay days
  let dayOfYear := (days - Calendar.yearStart year).toNat
  let (month, day) := Calendar.monthOfDay year 1 dayOfYear 11
  { year := year
    month := month
    day := day
    ordinal := dayOfYear + 1
    weekday := ((days + 3) % 7).toNat
    hour := time / 3600
    minute := time / 60 % 60
    second := time % 60
    nanosecond := i.nanoseconds
    instant := i }

/-- The number of the week, where weeks begin so many days after Monday. -/
def week (c : Civil) (firstDay : Nat) : Nat := (c.ordinal + 6 - (c.weekday + 7 - firstDay) % 7) / 7

/-- The number of weeks of a year that count by their Thursday. -/
def isoWeeks (year : Int) : Nat :=
  let newYear := ((Calendar.yearStart year + 3) % 7).toNat
  if newYear = 3 ∨ (newYear = 2 ∧ Calendar.isLeap year) then 53 else 52

/-- The year and the number of the week that holds the Thursday of this week. -/
def isoWeek (c : Civil) : Int × Nat :=
  let week : Nat := (c.ordinal + 9 - c.weekday) / 7
  if week = 0 then (c.year - 1, isoWeeks (c.year - 1))
  else if isoWeeks c.year < week then (c.year + 1, 1)
  else (c.year, week)

/-- The hour on a clock of twelve hours. -/
def hour12 (c : Civil) : Nat := if c.hour % 12 = 0 then 12 else c.hour % 12

end Civil

end Templating
