import Stencil.Value.Json

/-!
# Reading JSON texts

The inverse of the JSON form of values.  Integers that fit in 64 bits stay
integers, and every other number becomes a double: the digits that fit in 64
bits are taken as they are and scaled by a power of ten, with one rounding for
each of the two steps.
-/

namespace Stencil

-- Powers are those of the core library wherever this module is read.
attribute [local instance (high)] instPowNat

namespace Json

def skipBlanks (text : List Char) : List Char :=
  text.dropWhile fun char => char = ' ' || char = '\n' || char = '\t' || char = '\r'

def hexValue? (char : Char) : Option Nat :=
  if char.isDigit then some (char.toNat - '0'.toNat)
  else if 'a' ≤ char ∧ char ≤ 'f' then some (char.toNat - 'a'.toNat + 10)
  else if 'A' ≤ char ∧ char ≤ 'F' then some (char.toNat - 'A'.toNat + 10)
  else none

/-- Four hexadecimal digits, and what follows them. -/
def readUnit? : List Char → Option (Nat × List Char)
  | first :: second :: third :: fourth :: rest => do
      let first ← hexValue? first
      let second ← hexValue? second
      let third ← hexValue? third
      let fourth ← hexValue? fourth
      return (((first * 16 + second) * 16 + third) * 16 + fourth, rest)
  | _ => none

/--
The character of a numeric escape, after its letter.  One outside the basic
plane is written as two units, the second of them after another escape.
-/
def readUnicode? (text : List Char) : Option (Char × List Char) := do
  let (high, rest) ← readUnit? text
  if high < 0xD800 ∨ 0xE000 ≤ high then
    return (Char.ofNat high, rest)
  else if high < 0xDC00 then
    match rest with
    | '\\' :: 'u' :: rest =>
        let (low, rest) ← readUnit? rest
        if 0xDC00 ≤ low ∧ low < 0xE000 then
          return (Char.ofNat (0x10000 + (high - 0xD800) * 0x400 + (low - 0xDC00)), rest)
        else
          none
    | _ => none
  else
    none

/-- The character of an escape, after its backslash. -/
def readEscape? : List Char → Option (Char × List Char)
  | '"' :: rest => some ('"', rest)
  | '\\' :: rest => some ('\\', rest)
  | '/' :: rest => some ('/', rest)
  | 'b' :: rest => some (Char.ofNat 8, rest)
  | 'f' :: rest => some (Char.ofNat 12, rest)
  | 'n' :: rest => some ('\n', rest)
  | 'r' :: rest => some ('\r', rest)
  | 't' :: rest => some ('\t', rest)
  | 'u' :: rest => readUnicode? rest
  | _ => none

/--
The characters of a string, after its opening quote, and what follows the
closing one.  Every character takes up at least one place, so the first text,
from which the second is left, bounds their number.
-/
def readString? : (bound text : List Char) → Option (List Char × List Char)
  | [], _ => none
  | _ :: _, [] => none
  | _ :: bound, char :: rest =>
      if char = '"' then
        some ([], rest)
      else if char = '\\' then do
        let (escaped, rest) ← readEscape? rest
        let (chars, rest) ← readString? bound rest
        return (escaped :: chars, rest)
      else if char.toNat < 32 then
        none
      else do
        let (chars, rest) ← readString? bound rest
        return (char :: chars, rest)

/-- Appends digits to a number while it fits in 64 bits; also counts the digits appended. -/
def absorb (significand : Nat) : List Char → Nat × Nat
  | [] => (significand, 0)
  | digit :: digits =>
      let next := 10 * significand + (digit.toNat - '0'.toNat)
      if next < 18446744073709551616 then
        let (result, count) := absorb next digits
        (result, count + 1)
      else
        (significand, 0)

def powerOfTen (exponent : Nat) : Double :=
  Decimal.toDouble .double ⟨false, 10 ^ exponent, 0⟩

/--
A double times a power of ten, by one product, or by one quotient for each 308
places; none if it overflows.  Three quotients exhaust every double that 64
bits hold.
-/
def scale? (value : Double) (exponent : Int) : Option Double :=
  if 308 < exponent then
    if value.isZero then some value else none
  else if 0 ≤ exponent then
    match value.mul (powerOfTen exponent.toNat) with
    | .finite product => some (.finite product)
    | _ => none
  else if -308 ≤ exponent then
    some (value.div (powerOfTen (-exponent).toNat))
  else
    let once := value.div (powerOfTen 308)
    if -616 ≤ exponent then
      some (once.div (powerOfTen (-exponent - 308).toNat))
    else
      some ((once.div (powerOfTen 308)).div (powerOfTen 308))

/-- The number of its digits before and after the point, and its exponent. -/
def scaledNumber? (negative : Bool) (whole fraction : List Char) (exponent : Int) :
    Option Value :=
  let (significand, kept) := absorb 0 whole
  let (significand, places) := absorb significand fraction
  let shift := exponent + (whole.length - kept : Nat) - places
  (scale? (.ofInt significand) shift).map fun value =>
    .ofDouble (if negative then value.negate else value)

/-- The number of digits without a point or an exponent. -/
def wholeNumber? (negative : Bool) (whole : List Char) : Option Value :=
  let magnitude := Decimal.ofDigits whole
  match Number.ofInt? (Decimal.signed negative magnitude) with
  | some numeral =>
      if negative && magnitude == 0 then
        some (.ofDouble (.finite (.zero true)))
      else
        some (.number numeral)
  | none => scaledNumber? negative whole [] 0

/-- The exponent of a number, if one stands there, and what follows it. -/
def readExponent? : List Char → Option (Option Int × List Char)
  | letter :: text =>
      if letter = 'e' ∨ letter = 'E' then
        let (negative, text) := Decimal.splitSign text
        let digits := text.takeWhile Char.isDigit
        if digits.isEmpty then
          none
        else
          some (some (Decimal.signed negative (Decimal.ofDigits digits)),
            text.dropWhile Char.isDigit)
      else
        some (none, letter :: text)
  | [] => some (none, [])

/-- The digits after a point, if one stands there, and what follows them. -/
def readFraction? : List Char → Option (Option (List Char) × List Char)
  | '.' :: text =>
      let digits := text.takeWhile Char.isDigit
      if digits.isEmpty then none else some (some digits, text.dropWhile Char.isDigit)
  | text => some (none, text)

/-- A number, and what follows it.  Its whole part has no needless zero in front. -/
def readNumber? (text : List Char) : Option (Value × List Char) := do
  let (negative, unsigned) :=
    match text with
    | '-' :: rest => (true, rest)
    | _ => (false, text)
  let whole := unsigned.takeWhile Char.isDigit
  if whole.isEmpty || (whole.head? == some '0' && whole.length != 1) then
    none
  else
    let (fraction, rest) ← readFraction? (unsigned.dropWhile Char.isDigit)
    let (exponent, rest) ← readExponent? rest
    let value ←
      match fraction, exponent with
      | none, none => wholeNumber? negative whole
      | _, _ => scaledNumber? negative whole (fraction.getD []) (exponent.getD 0)
    return (value, rest)

mutual

/-- A value, and what follows it.  The first argument bounds the number of steps. -/
def readValue? : Nat → List Char → Option (Value × List Char)
  | 0, _ => none
  | bound + 1, text =>
      match skipBlanks text with
      | 'n' :: 'u' :: 'l' :: 'l' :: rest => some (.nil, rest)
      | 't' :: 'r' :: 'u' :: 'e' :: rest => some (.bool true, rest)
      | 'f' :: 'a' :: 'l' :: 's' :: 'e' :: rest => some (.bool false, rest)
      | '"' :: rest =>
          (readString? rest rest).map fun (chars, rest) => (.ofText chars, rest)
      | '[' :: rest =>
          match skipBlanks rest with
          | ']' :: rest => some (.sequence [], rest)
          | _ => (readItems? bound rest).map fun (items, rest) => (.sequence items, rest)
      | '{' :: rest =>
          match skipBlanks rest with
          | '}' :: rest => some (.mapping [], rest)
          | _ =>
              (readEntries? bound rest).map fun (entries, rest) =>
                (.mapping (Entries.ofList entries), rest)
      | other => readNumber? other

/-- The items of an array, after its bracket or a comma, and what follows the array. -/
def readItems? : Nat → List Char → Option (List Value × List Char)
  | 0, _ => none
  | bound + 1, text =>
      match readValue? bound text with
      | none => none
      | some (item, rest) =>
          match skipBlanks rest with
          | ']' :: rest => some ([item], rest)
          | ',' :: rest =>
              (readItems? bound rest).map fun (items, rest) => (item :: items, rest)
          | _ => none

/-- The entries of an object, after its bracket or a comma, and what follows the object. -/
def readEntries? : Nat → List Char → Option (List (String × Value) × List Char)
  | 0, _ => none
  | bound + 1, text =>
      match skipBlanks text with
      | '"' :: rest =>
          match readString? rest rest with
          | none => none
          | some (name, rest) =>
              match skipBlanks rest with
              | ':' :: rest =>
                  match readValue? bound rest with
                  | none => none
                  | some (value, rest) =>
                      let entry := (String.ofList name, value)
                      match skipBlanks rest with
                      | '}' :: rest => some ([entry], rest)
                      | ',' :: rest =>
                          (readEntries? bound rest).map fun (entries, rest) =>
                            (entry :: entries, rest)
                      | _ => none
              | _ => none
      | _ => none

end

/-- The value of a JSON text. -/
def read? (text : List Char) : Option Value :=
  match readValue? (2 * text.length + 2) text with
  | some (value, rest) => if (skipBlanks rest).isEmpty then some value else none
  | none => none

end Json

end Stencil
