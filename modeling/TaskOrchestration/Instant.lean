/-!
# Instants

A point in time in universal time, to the nanosecond, as a day of the Gregorian calendar and a time
of day. A leap second is the second 60 of its minute. The type holds only points that exist, with
years from `Date.firstYear` to `Date.lastYear`.
-/

namespace TaskOrchestration

/-- A day of the Gregorian calendar, extended to all years. -/
structure Date where
  /-- The year; the year before 1 is 0. -/
  year : Int
  /-- The month, from 1 to 12. -/
  month : Nat
  /-- The day of the month, from 1. -/
  day : Nat
  deriving DecidableEq, Repr

namespace Date

/-- The first year an instant may lie in. -/
def firstYear : Int := -262143

/-- The last year an instant may lie in. -/
def lastYear : Int := 262142

/-- Every fourth year is a leap year, but of the full centuries only every fourth. -/
def isLeapYear (year : Int) : Bool := year % 4 == 0 && (year % 100 != 0 || year % 400 == 0)

/-- The number of days of a month. -/
def daysInMonth (year : Int) (month : Nat) : Nat :=
  if month == 2 then if isLeapYear year then 29 else 28
  else if month == 4 || month == 6 || month == 9 || month == 11 then 30
  else 31

/-- Whether the calendar has this day. -/
def isValid (d : Date) : Bool :=
  decide (firstYear ≤ d.year) && decide (d.year ≤ lastYear) && decide (1 ≤ d.month)
    && decide (d.month ≤ 12) && decide (1 ≤ d.day) && decide (d.day ≤ daysInMonth d.year d.month)

/-- The day after. -/
def next (d : Date) : Date :=
  if d.day < daysInMonth d.year d.month then { d with day := d.day + 1 }
  else if d.month < 12 then ⟨d.year, d.month + 1, 1⟩
  else ⟨d.year + 1, 1, 1⟩

/-- The day before. -/
def previous (d : Date) : Date :=
  if 1 < d.day then { d with day := d.day - 1 }
  else if 1 < d.month then ⟨d.year, d.month - 1, daysInMonth d.year (d.month - 1)⟩
  else ⟨d.year - 1, 12, 31⟩

end Date

/-- A day and a time of day, not yet known to exist. -/
structure Reading where
  /-- The day. -/
  date : Date
  /-- The hour, from 0. -/
  hour : Nat
  /-- The minute, from 0. -/
  minute : Nat
  /-- The second, 60 in a leap second. -/
  second : Nat
  /-- The part of the second, in nanoseconds. -/
  nano : Nat
  deriving DecidableEq, Repr

/-- Whether there is such a day with such a time. -/
def Reading.isValid (r : Reading) : Bool :=
  r.date.isValid && decide (r.hour ≤ 23) && decide (r.minute ≤ 59) && decide (r.second ≤ 60)
    && decide (r.nano < 1000000000)

/-- A point in time. -/
structure Instant where
  /-- Its day and time of day in universal time. -/
  reading : Reading
  /-- The calendar has that day and the day that time. -/
  valid : reading.isValid = true
  deriving DecidableEq

/-- The instant at which a clock shows `r`, when there is one. -/
def Instant.ofReading? (r : Reading) : Option Instant :=
  if h : r.isValid = true then some ⟨r, h⟩ else none

/-- What a clock in universal time shows while one that is `offset` minutes ahead of it shows `r`.
Clocks differ by less than a day, so the day is the same or one of its neighbours. -/
def Reading.inUniversalTime (offset : Int) (r : Reading) : Reading :=
  let minutes : Int := (r.hour : Int) * 60 + r.minute - offset
  let date :=
    if minutes < 0 then r.date.previous else if 1440 ≤ minutes then r.date.next else r.date
  let inDay := (minutes % 1440).toNat
  { r with date, hour := inDay / 60, minute := inDay % 60 }

end TaskOrchestration
