import Fleet.Duration.Basic
import Fleet.Moment.Calendar

/-! Moments: a date and a time of day, with the distance from universal time when it is known. -/

namespace Fleet

/-- Microseconds of all the years that a calendar date can name. -/
def calendarMicros : Nat := Calendar.dayCount * microsPerDay

/-- A date and a time of day. The clock counts microseconds from the first midnight of the year 1
in the place where the moment was noted; the offset, in minutes, is how far that place is ahead of
universal time. -/
structure Moment where
  clock : Nat
  offset : Option Int
  inCalendar : clock < calendarMicros
deriving DecidableEq

/-- Why two moments cannot be computed with. -/
inductive MomentError where
  /-- The result lies outside the years of the calendar. -/
  | outOfCalendar
  /-- Only one of two moments says how far it is from universal time. -/
  | offsetsDiffer
deriving DecidableEq

/-- What is wrong, in words. -/
def MomentError.message : MomentError → String
  | outOfCalendar => "date value out of range"
  | offsetsDiffer => "can't subtract offset-naive and offset-aware datetimes"

namespace Moment

/-- The moment with a clock, if the calendar has it. -/
def ofClock? (clock : Int) (offset : Option Int) : Option Moment :=
  if inCalendar : 0 ≤ clock ∧ clock < calendarMicros then
    some ⟨clock.toNat, offset, by omega⟩
  else none

/-- The moment a length of time later, in the same place. -/
def add (moment : Moment) (d : Duration) : Except MomentError Moment :=
  match ofClock? (moment.clock + d.micros) moment.offset with
  | some later => .ok later
  | none => .error .outOfCalendar

/-- Microseconds in a minute. -/
def microsPerMinute : Int := 60000000

/-- The microseconds from one moment to a later one. Both or neither must say how far they are
from universal time. -/
def since (later earlier : Moment) : Except MomentError Int :=
  match later.offset, earlier.offset with
  | some ahead, some behind =>
    .ok ((later.clock - ahead * microsPerMinute) - (earlier.clock - behind * microsPerMinute))
  | none, none => .ok (later.clock - earlier.clock)
  | _, _ => .error .offsetsDiffer

/-- The same moment noted in universal time, if the calendar has it there. -/
def universal (moment : Moment) : Except MomentError Moment :=
  match ofClock? (moment.clock - moment.offset.getD 0 * microsPerMinute) (some 0) with
  | some noted => .ok noted
  | none => .error .outOfCalendar

/-- The date of the moment. -/
def date (moment : Moment) : Calendar.Date :=
  .ofDayNumber (moment.clock / microsPerDay)

end Moment

end Fleet
