import Stencil.Calendar
import Stencil.Config

/-!
# The date filter

Writes a moment by a pattern.  A value that denotes no moment, or a pattern
with an unknown specifier, leaves the value unchanged.
-/

namespace Stencil

namespace Filter

/-- The pattern by which dates are written without an argument: year, month and day. -/
def defaultPattern : List Char :=
  ['%', 'Y', '-', '%', 'm', '-', '%', 'd']

def patternOf : Option Value → List Char
  | none | some .nil => defaultPattern
  | some argument => argument.text

/-- The moment that a value denotes: seconds since 1970, a text, or the present. -/
def momentOf? (calendar : Calendar) (now : Moment) : Value → Option Moment
  | .number numeral => numeral.signed?.bind calendar.ofTimestamp?
  | .string text =>
      if text = "now" ∨ text = "today" then some now
      else (calendar.readStandard? text.toList).or (calendar.readDate? text.toList)
  | _ => none

/-- The moment of a value, written by the pattern of the argument. -/
def date (calendar : Calendar) (now : Moment) (value : Value) (argument : Option Value) :
    Except Fault Value :=
  match calendar.readPattern? (patternOf argument) with
  | none => .ok value
  | some pattern =>
      match momentOf? calendar now value with
      | none => .ok value
      | some moment =>
          match calendar.write? moment pattern with
          | some written => .ok (.ofText written)
          | none => .error .zoneUnknown

end Filter

end Stencil
