import Stencil.Calendar.Moment
import Stencil.Calendar.Pattern

/-!
# Writing moments

A moment is written by writing the parts of a pattern one after the other.
Parts that name the zone cannot be written for a moment without one.
-/

namespace Stencil

-- Powers are those of the core library wherever this module is read.
attribute [local instance (high)] instPowNat

namespace Pattern

def digits (number : Nat) : List Char :=
  Nat.toDigits 10 number

/-- A natural number with zeros in front, up to a width. -/
def zeroPadded (width number : Nat) : List Char :=
  let written := digits number
  List.replicate (width - written.length) '0' ++ written

/-- Two decimal digits of a number below one hundred. -/
def twoDigits (number : Nat) : List Char :=
  zeroPadded 2 number

/--
A number of up to two digits.  The number is taken modulo 256, and a tens digit
beyond nine is the character that many places after the digit zero.
-/
def paddedByte (padding : Padding) (number : Int) : List Char :=
  let byte := (number % 256).toNat
  let tens :=
    if byte / 10 = 0 then
      match padding with
      | .none => []
      | .zero => ['0']
      | .space => [' ']
    else
      [Char.ofNat ('0'.toNat + byte / 10)]
  tens ++ digits (byte % 10)

/-- A signed number up to a width, which counts the sign; a plus is shown on demand. -/
def paddedNumber (width : Nat) (padding : Padding) (showPlus : Bool) (number : Int) :
    List Char :=
  let sign := if number < 0 then ['-'] else if showPlus then ['+'] else []
  let written := digits number.natAbs
  let width := if showPlus then width + 1 else width
  let missing := width - (sign.length + written.length)
  match padding with
  | .none => sign ++ written
  | .zero => sign ++ List.replicate missing '0' ++ written
  | .space => List.replicate missing ' ' ++ sign ++ written

/-- A year: four digits, and a sign where four digits are not enough. -/
def paddedYear (padding : Padding) (year : Int) : List Char :=
  paddedNumber 4 padding (!(0 ≤ year && year < 10000)) year

def writeNumber (moment : Moment) (padding : Padding) : NumericPart → List Char
  | .year => paddedYear padding moment.date.year
  | .century => paddedByte padding (moment.date.year / 100)
  | .yearOfCentury => paddedByte padding (moment.date.year % 100)
  | .weekYear => paddedYear padding moment.date.weekYear
  | .weekYearOfCentury => paddedByte padding (moment.date.weekYear % 100)
  | .quarter => digits moment.date.quarter
  | .month => paddedByte padding moment.date.month
  | .day => paddedByte padding moment.date.day
  | .weekFromSunday => paddedByte padding moment.date.weekFromSunday
  | .weekFromMonday => paddedByte padding moment.date.weekFromMonday
  | .week => paddedByte padding moment.date.week
  | .weekday => digits moment.date.weekday
  | .weekdayFromMonday => digits (moment.date.weekdayFromMonday + 1)
  | .ordinal => paddedNumber 3 padding false moment.date.ordinal
  | .hour => paddedByte padding moment.hour
  | .hour12 => paddedByte padding moment.hour12
  | .minute => paddedByte padding moment.minute
  | .second => paddedByte padding moment.second
  | .nanosecond => paddedNumber 9 padding false moment.nanosecond
  | .timestamp => paddedNumber 9 padding false moment.timestamp

def monthNames : List String :=
  ["January", "February", "March", "April", "May", "June", "July", "August", "September",
    "October", "November", "December"]

/-- The English names of the days of the week, from Sunday on. -/
def weekdayNames : List String :=
  ["Sunday", "Monday", "Tuesday", "Wednesday", "Thursday", "Friday", "Saturday"]

def monthName (date : Date) : List Char :=
  (monthNames.getD (date.month - 1) "").toList

def weekdayName (date : Date) : List Char :=
  (weekdayNames.getD date.weekday "").toList

def writePlaces (moment : Moment) (count : Nat) : List Char :=
  zeroPadded count (moment.nanosecond / 10 ^ (9 - count))

/-- The fraction of the second after a point, in three, six or nine places. -/
def writeFraction (moment : Moment) : List Char :=
  if moment.nanosecond = 0 then []
  else if moment.nanosecond % 1000000 = 0 then '.' :: writePlaces moment 3
  else if moment.nanosecond % 1000 = 0 then '.' :: writePlaces moment 6
  else '.' :: writePlaces moment 9

/-- How far a zone is ahead of universal time. -/
def writeOffset (precision : OffsetPrecision) (colons : Bool) (zone : Zone) : List Char :=
  let seconds := zone.seconds.natAbs
  let minutes := if precision = .minutes then (seconds + 30) / 60 else seconds / 60
  let colon := if colons then [':'] else []
  let sign := if zone.seconds < 0 then '-' else '+'
  let hours := twoDigits (minutes / 60)
  let rest :=
    match precision with
    | .hours => []
    | .minutes => colon ++ twoDigits (minutes % 60)
    | .seconds => colon ++ twoDigits (minutes % 60) ++ colon ++ twoDigits (seconds % 60)
  sign :: hours ++ rest

/-- The name of a zone: universal time has one, every other shows its distance. -/
def zoneText : Zone → List Char
  | .universal => "UTC".toList
  | .offset seconds => writeOffset .minutes true (.offset seconds)

/-- The moment in the form of the standard for times on the network. -/
def writeStandard (moment : Moment) (zone : Zone) : List Char :=
  paddedYear .zero moment.date.year ++ '-' :: twoDigits moment.date.month ++
    '-' :: twoDigits moment.date.day ++ 'T' :: twoDigits moment.hour ++
    ':' :: twoDigits moment.minute ++ ':' :: twoDigits moment.second ++
    writeFraction moment ++ writeOffset .minutes true zone

/-- A part of a moment other than a number; none if it needs a zone that is not known. -/
def writeText? (moment : Moment) : TextPart → Option (List Char)
  | .shortMonth => some ((monthName moment.date).take 3)
  | .longMonth => some (monthName moment.date)
  | .shortWeekday => some ((weekdayName moment.date).take 3)
  | .longWeekday => some (weekdayName moment.date)
  | .lowerHalf => some (if moment.hour < 12 then ['a', 'm'] else ['p', 'm'])
  | .upperHalf => some (if moment.hour < 12 then ['A', 'M'] else ['P', 'M'])
  | .fraction => some (writeFraction moment)
  | .places count point =>
      some ((if point then ['.'] else []) ++ writePlaces moment count)
  | .zoneName => moment.zone.map zoneText
  | .zoneOffset precision colons => moment.zone.map (writeOffset precision colons)
  | .standard => moment.zone.map (writeStandard moment)
  | .anyZone => none

def writeItem? (moment : Moment) : Item → Option (List Char)
  | .literal char => some [char]
  | .number field padding => some (writeNumber moment padding field)
  | .text field => writeText? moment field

/-- A pattern filled in from a moment; none if it asks for a zone that is not known. -/
def write? (moment : Moment) : List Item → Option (List Char)
  | [] => some []
  | item :: items => do
      let written ← writeItem? moment item
      let rest ← write? moment items
      return written ++ rest

end Pattern

end Stencil
