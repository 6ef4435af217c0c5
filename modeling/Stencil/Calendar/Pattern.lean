/-!
# Date patterns

A pattern is a text with specifiers, each a percent sign and a letter, that
stand for parts of a moment.  A specifier of a single number may be told how to
pad it.
-/

namespace Stencil

namespace Pattern

/-- What fills a number up to its width. -/
inductive Padding
  | none
  | zero
  | space
  deriving DecidableEq, Repr

inductive NumericPart
  | year
  | century
  | yearOfCentury
  | weekYear
  | weekYearOfCentury
  | quarter
  | month
  | day
  | weekFromSunday
  | weekFromMonday
  | week
  | weekday
  | weekdayFromMonday
  | ordinal
  | hour
  | hour12
  | minute
  | second
  | nanosecond
  | timestamp
  deriving DecidableEq, Repr

/-- How exactly the distance of a zone from universal time is written. -/
inductive OffsetPrecision
  | hours
  | minutes
  | seconds
  deriving DecidableEq, Repr

inductive TextPart
  | shortMonth
  | longMonth
  | shortWeekday
  | longWeekday
  | lowerHalf
  | upperHalf
  /-- The fraction of the second after a point, nothing if it is zero. -/
  | fraction
  /-- A given number of places of the fraction of the second. -/
  | places (count : Nat) (point : Bool)
  | zoneName
  | zoneOffset (precision : OffsetPrecision) (colons : Bool)
  /-- The moment in the form of the standard for times on the network. -/
  | standard
  /-- A zone in any form, which can be read but not written. -/
  | anyZone
  deriving DecidableEq, Repr

inductive Item
  | literal (char : Char)
  | number (field : NumericPart) (padding : Padding)
  | text (field : TextPart)
  deriving DecidableEq, Repr

open NumericPart TextPart

/-- The parts that a specifier of one character stands for. -/
def expand? : Char → Option (List Item)
  | 'A' => some [.text longWeekday]
  | 'B' => some [.text longMonth]
  | 'C' => some [.number century .zero]
  | 'D' | 'x' =>
      some [.number month .zero, .literal '/', .number day .zero, .literal '/',
        .number yearOfCentury .zero]
  | 'F' =>
      some [.number year .zero, .literal '-', .number month .zero, .literal '-',
        .number day .zero]
  | 'G' => some [.number weekYear .zero]
  | 'H' => some [.number hour .zero]
  | 'I' => some [.number hour12 .zero]
  | 'M' => some [.number minute .zero]
  | 'P' => some [.text lowerHalf]
  | 'R' => some [.number hour .zero, .literal ':', .number minute .zero]
  | 'S' => some [.number second .zero]
  | 'T' | 'X' =>
      some [.number hour .zero, .literal ':', .number minute .zero, .literal ':',
        .number second .zero]
  | 'U' => some [.number weekFromSunday .zero]
  | 'V' => some [.number week .zero]
  | 'W' => some [.number weekFromMonday .zero]
  | 'Y' => some [.number year .zero]
  | 'Z' => some [.text zoneName]
  | 'a' => some [.text shortWeekday]
  | 'b' | 'h' => some [.text shortMonth]
  | 'c' =>
      some [.text shortWeekday, .literal ' ', .text shortMonth, .literal ' ',
        .number day .space, .literal ' ', .number hour .zero, .literal ':',
        .number minute .zero, .literal ':', .number second .zero, .literal ' ',
        .number year .zero]
  | 'd' => some [.number day .zero]
  | 'e' => some [.number day .space]
  | 'f' => some [.number nanosecond .zero]
  | 'g' => some [.number weekYearOfCentury .zero]
  | 'j' => some [.number ordinal .zero]
  | 'k' => some [.number hour .space]
  | 'l' => some [.number hour12 .space]
  | 'm' => some [.number month .zero]
  | 'n' => some [.literal '\n']
  | 'p' => some [.text upperHalf]
  | 'q' => some [.number quarter .none]
  | 'r' =>
      some [.number hour12 .zero, .literal ':', .number minute .zero, .literal ':',
        .number second .zero, .literal ' ', .text upperHalf]
  | 's' => some [.number timestamp .none]
  | 't' => some [.literal '\t']
  | 'u' => some [.number weekdayFromMonday .none]
  | 'v' =>
      some [.number day .space, .literal '-', .text shortMonth, .literal '-',
        .number year .zero]
  | 'w' => some [.number weekday .none]
  | 'y' => some [.number yearOfCentury .zero]
  | 'z' => some [.text (zoneOffset .minutes false)]
  | '+' => some [.text standard]
  | '%' => some [.literal '%']
  | _ => none

/-- The parts that the beginning of a text stands for after a percent sign. -/
def readSpecifier? : List Char → Option (List Item × List Char)
  | ':' :: ':' :: ':' :: 'z' :: rest => some ([.text (zoneOffset .hours false)], rest)
  | ':' :: ':' :: 'z' :: rest => some ([.text (zoneOffset .seconds true)], rest)
  | ':' :: 'z' :: rest => some ([.text (zoneOffset .minutes true)], rest)
  | '.' :: 'f' :: rest => some ([.text fraction], rest)
  | '.' :: '3' :: 'f' :: rest => some ([.text (places 3 true)], rest)
  | '.' :: '6' :: 'f' :: rest => some ([.text (places 6 true)], rest)
  | '.' :: '9' :: 'f' :: rest => some ([.text (places 9 true)], rest)
  | '3' :: 'f' :: rest => some ([.text (places 3 false)], rest)
  | '6' :: 'f' :: rest => some ([.text (places 6 false)], rest)
  | '9' :: 'f' :: rest => some ([.text (places 9 false)], rest)
  | letter :: rest => (expand? letter).map fun items => (items, rest)
  | [] => none

/-- Changes the padding of a specifier that stands for a single number. -/
def repad? (padding : Padding) : List Item × List Char → Option (List Item × List Char)
  | ([.number field _], rest) => some ([.number field padding], rest)
  | _ => none

/-- A specifier with the modifier before it, after a percent sign. -/
def readModified? : List Char → Option (List Item × List Char)
  | '-' :: rest => (readSpecifier? rest).bind (repad? .none)
  | '0' :: rest => (readSpecifier? rest).bind (repad? .zero)
  | '_' :: rest => (readSpecifier? rest).bind (repad? .space)
  | '#' :: 'z' :: rest => some ([.text anyZone], rest)
  | text => readSpecifier? text

/--
The parts of a pattern; none if one of its specifiers does not exist.  The
first argument bounds the number of characters.
-/
def readBounded? : Nat → List Char → Option (List Item)
  | _, [] => some []
  | 0, _ :: _ => none
  | bound + 1, '%' :: rest =>
      match readModified? rest with
      | none => none
      | some (items, rest) => (readBounded? bound rest).map (items ++ ·)
  | bound + 1, char :: rest => (readBounded? bound rest).map (.literal char :: ·)

/-- The parts of a pattern; none if one of its specifiers does not exist. -/
def read? (text : List Char) : Option (List Item) :=
  readBounded? text.length text

end Pattern

end Stencil
