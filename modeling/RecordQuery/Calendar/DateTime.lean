/-
This file holds date-times: what a clock on the wall shows, and how far it is ahead of UTC.

Two date-times are the same instant if their clocks agree after their offsets are taken off.
Equality and order of values go by the instant; text shows the clock.
-/

import RecordQuery.Calendar.Date

namespace RecordQuery.Calendar

/-- What a clock shows, to the nanosecond. -/
structure ClockTime where
  hour : Nat
  minute : Nat
  second : Nat
  nanosecond : Nat
  hour_lt : hour < 24
  minute_lt : minute < 60
  second_lt : second < 60
  nanosecond_lt : nanosecond < 1000000000
deriving DecidableEq

namespace ClockTime

/-- The clock time of an hour, a minute, a second and a nanosecond, if there is one. -/
def ofParts? (hour minute second nanosecond : Nat) : Option ClockTime :=
  if valid : hour < 24 ∧ minute < 60 ∧ second < 60 ∧ nanosecond < 1000000000 then
    some ⟨hour, minute, second, nanosecond, valid.1, valid.2.1, valid.2.2.1, valid.2.2.2⟩
  else none

/-- The beginning of a day. -/
def midnight : ClockTime :=
  ⟨0, 0, 0, 0, by decide, by decide, by decide, by decide⟩

/-- Whole seconds since midnight. -/
def seconds (time : ClockTime) : Nat :=
  time.hour * 3600 + time.minute * 60 + time.second

end ClockTime

/-- The greatest distance from UTC, in seconds: one second less than twenty-six hours. -/
def greatestOffset : Nat := 93599

/-- A clock time on a date, on a clock that is `offset` seconds ahead of UTC. -/
structure DateTime where
  date : Date
  time : ClockTime
  offset : Int
  offset_le : offset.natAbs ≤ greatestOffset
deriving DecidableEq

namespace DateTime

/-- The date-time of a date, a clock time and an offset, if the offset is not too large. -/
def ofParts? (date : Date) (time : ClockTime) (offset : Int) : Option DateTime :=
  if valid : offset.natAbs ≤ greatestOffset then some ⟨date, time, offset, valid⟩ else none

/-- Midnight UTC of a date. -/
def midnight (date : Date) : DateTime :=
  ⟨date, .midnight, 0, by decide⟩

/-- The whole second, counted along one line in UTC. -/
def utcSeconds (value : DateTime) : Int :=
  value.date.dayNumber * 86400 + value.time.seconds - value.offset

/-- The instant, in nanoseconds. -/
def instant (value : DateTime) : Int :=
  value.utcSeconds * 1000000000 + value.time.nanosecond

/-- Whether two date-times are the same instant. -/
def sameInstant (left right : DateTime) : Bool :=
  left.instant = right.instant

/-- Date-times in the order of their instants. -/
def order (left right : DateTime) : Ordering :=
  compare left.instant right.instant

/-- The date-time a whole number of seconds later on the same clock, if the calendar reaches that
far. -/
def addSeconds? (value : DateTime) (seconds : Int) : Option DateTime := do
  let total := value.date.dayNumber * 86400 + value.time.seconds + seconds
  let date ← Date.ofDayNumber? (total.fdiv 86400)
  let rest := (total - total.fdiv 86400 * 86400).toNat
  let time ← ClockTime.ofParts? (rest / 3600) (rest / 60 % 60) (rest % 60) value.time.nanosecond
  return { value with date, time }

end DateTime

end RecordQuery.Calendar
