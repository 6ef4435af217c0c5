import Stencil.Calendar.Moment
import Stencil.Number.Decimal
import Stencil.Text.Blank

/-!
# Reading moments

Two forms of text denote a moment: the standard for times on the network, with
date, time and zone, and a date alone.
-/

namespace Stencil

-- Powers are those of the core library wherever this module is read.
attribute [local instance (high)] instPowNat

namespace Moment

/-- A number of exactly `count` digits, and what follows it. -/
def readFixed? (count : Nat) (text : List Char) : Option (Nat × List Char) :=
  (Decimal.readDigits? (text.take count)).bind fun number =>
    if count ≤ text.length then some (number, text.drop count) else none

/-- What follows an expected character. -/
def expect? (expected : Char) : List Char → Option (List Char)
  | [] => none
  | char :: rest => if char = expected then some rest else none

/-- The fraction of a second after a point, in nanoseconds; further digits are skipped. -/
def readFraction? : List Char → Option (Nat × List Char)
  | '.' :: text =>
      let digits := text.takeWhile Char.isDigit
      let kept := digits.take 9
      if kept.isEmpty then
        none
      else
        some (Decimal.ofDigits kept * 10 ^ (9 - kept.length), text.dropWhile Char.isDigit)
  | text => some (0, text)

/-- A zone: the letter `Z`, or hours and minutes after a sign. -/
def readZone? : List Char → Option (Zone × List Char)
  | [] => none
  | sign :: text =>
      if sign = 'Z' ∨ sign = 'z' then
        some (.offset 0, text)
      else if sign = '+' ∨ sign = '-' ∨ sign = '−' then do
        let (hours, text) ← readFixed? 2 text
        let text ← expect? ':' text
        let (minutes, text) ← readFixed? 2 text
        if hours ≤ 23 ∧ minutes ≤ 59 then
          let seconds : Int := (hours * 60 + minutes) * 60
          return (.offset (if sign = '+' then seconds else -seconds), text)
        else
          none
      else
        none

/-- A moment in the form of the standard for times on the network. -/
def readStandard? (text : List Char) : Option Moment := do
  let (year, text) ← readFixed? 4 text
  let text ← expect? '-' text
  let (month, text) ← readFixed? 2 text
  let text ← expect? '-' text
  let (day, text) ← readFixed? 2 text
  let text ← (expect? 'T' text).or ((expect? 't' text).or (expect? ' ' text))
  let (hour, text) ← readFixed? 2 text
  let text ← expect? ':' text
  let (minute, text) ← readFixed? 2 text
  let text ← expect? ':' text
  let (second, text) ← readFixed? 2 text
  let (nanosecond, text) ← readFraction? text
  let (zone, text) ← readZone? text
  let date ← Date.ofCivil? year month day
  if hour ≤ 23 ∧ minute ≤ 59 ∧ second ≤ 60 ∧ text.isEmpty then
    return { date, hour, minute, second, nanosecond, zone := some zone }
  else
    none

/-- Up to `most` digits after blanks, and what follows them. -/
def readUpTo? (most : Nat) (text : List Char) : Option (Nat × List Char) :=
  let text := Text.trimStart text
  let digits := (text.take most).takeWhile Char.isDigit
  (Decimal.readDigits? digits).map fun number => (number, text.drop digits.length)

/-- A year after blanks: up to four digits, or any number of them after a sign. -/
def readYear? (text : List Char) : Option (Int × List Char) :=
  let text := Text.trimStart text
  let signed (negative : Bool) (text : List Char) :=
    let digits := text.takeWhile Char.isDigit
    (Decimal.readDigits? digits).map fun number =>
      (Decimal.signed negative number, text.drop digits.length)
  match text with
  | '-' :: text => signed true text
  | '+' :: text => signed false text
  | _ => (readUpTo? 4 text).map fun (number, rest) => (number, rest)

/-- The beginning of a day, from year, month and day with hyphens between them. -/
def readDate? (text : List Char) : Option Moment := do
  let (year, text) ← readYear? text
  let text ← expect? '-' text
  let (month, text) ← readUpTo? 2 text
  let text ← expect? '-' text
  let (day, text) ← readUpTo? 2 text
  let date ← Date.ofCivil? year month day
  if text.isEmpty then
    return ofDate date
  else
    none

end Moment

end Stencil
