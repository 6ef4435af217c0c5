import Stencil.Calendar.Format
import Stencil.Calendar.Reading

/-!
# Calendars

A calendar reads moments and patterns, and writes moments by patterns.  The
Gregorian calendar of this library is one of them.
-/

namespace Stencil

structure Calendar where
  /-- The moment so many seconds after the beginning of 1970, if it is in reach. -/
  ofTimestamp? : Int → Option Moment
  /-- A moment in the form of the standard for times on the network. -/
  readStandard? : List Char → Option Moment
  /-- The beginning of the day that a date denotes. -/
  readDate? : List Char → Option Moment
  /-- The parts of a pattern; none if one of its specifiers does not exist. -/
  readPattern? : List Char → Option (List Pattern.Item)
  /-- A pattern filled in from a moment; none if this fails. -/
  write? : Moment → List Pattern.Item → Option (List Char)

def Calendar.gregorian : Calendar where
  ofTimestamp? := Moment.ofTimestamp?
  readStandard? := Moment.readStandard?
  readDate? := Moment.readDate?
  readPattern? := Pattern.read?
  write? := Pattern.write?

end Stencil
