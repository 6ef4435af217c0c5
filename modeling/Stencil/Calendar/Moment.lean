import Stencil.Calendar.Date

/-!
# Moments

A date with a time of day, and the zone in which they are counted where one is
known.
-/

namespace Stencil

/-- What a time of day is counted from. -/
inductive Zone
  | universal
  /-- Universal time and so many seconds. -/
  | offset (seconds : Int)
  deriving DecidableEq, Repr

/-- How many seconds a zone is ahead of universal time. -/
def Zone.seconds : Zone → Int
  | .universal => 0
  | .offset seconds => seconds

structure Moment where
  date : Date
  hour : Nat
  minute : Nat
  /-- Seconds of the minute; the sixtieth is a leap second. -/
  second : Nat
  nanosecond : Nat
  zone : Option Zone
  deriving DecidableEq, Repr

namespace Moment

/-- The moment so many seconds after the beginning of 1970, if its year is in reach. -/
def ofTimestamp? (timestamp : Int) : Option Moment :=
  let date : Date := ⟨timestamp / 86400⟩
  let second := (timestamp % 86400).toNat
  if Date.yearInReach date.year then
    some
      { date
        hour := second / 3600
        minute := second / 60 % 60
        second := second % 60
        nanosecond := 0
        zone := some .universal }
  else
    none

/-- The beginning of a day, in no zone. -/
def ofDate (date : Date) : Moment :=
  { date, hour := 0, minute := 0, second := 0, nanosecond := 0, zone := none }

def hour12 (moment : Moment) : Nat :=
  (moment.hour + 11) % 12 + 1

/--
Seconds since the beginning of 1970, where a moment without a zone counts as
universal time and a leap second as the second before it.
-/
def timestamp (moment : Moment) : Int :=
  let time : Nat := moment.hour * 3600 + moment.minute * 60 + min moment.second 59
  moment.date.days * 86400 + time - (moment.zone.map Zone.seconds).getD 0

end Moment

end Stencil
