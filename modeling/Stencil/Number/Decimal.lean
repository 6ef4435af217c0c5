import Stencil.Number.Double

/-!
# Decimal notation

Reading integers and decimals.  A decimal text denotes an exact number
`coefficient * 10 ^ exponent`, which is rounded once to the format asked for.
-/

namespace Stencil

-- Powers are those of the core library wherever this module is read.
attribute [local instance (high)] instPowNat

structure Decimal where
  negative : Bool
  coefficient : Nat
  exponent : Int
  deriving DecidableEq

namespace Decimal

/-- The number that a list of digits denotes. -/
def ofDigits (digits : List Char) : Nat :=
  digits.foldl (fun value digit => 10 * value + (digit.toNat - '0'.toNat)) 0

/-- Digits and nothing else, at least one. -/
def readDigits? (text : List Char) : Option Nat :=
  if !text.isEmpty && text.all Char.isDigit then some (ofDigits text) else none

/-- Whether a text begins with a minus, and what follows its sign, if it has one. -/
def splitSign : List Char → Bool × List Char
  | '-' :: rest => (true, rest)
  | '+' :: rest => (false, rest)
  | text => (false, text)

/-- Puts a sign before a natural number. -/
def signed (negative : Bool) (magnitude : Nat) : Int :=
  if negative then -(magnitude : Int) else magnitude

/-- An integer: digits after an optional sign. -/
def readInteger? (text : List Char) : Option Int :=
  let (negative, digits) := splitSign text
  (readDigits? digits).map (signed negative)

/-- The digits of an integer, after a minus if it is negative. -/
def writeInteger (value : Int) : List Char :=
  if value < 0 then
    '-' :: Nat.toDigits 10 value.natAbs
  else
    Nat.toDigits 10 value.natAbs

/-- A natural number: digits after an optional plus. -/
def readNatural? : List Char → Option Nat
  | '+' :: digits => readDigits? digits
  | digits => readDigits? digits

/-- The exponent at the end of a decimal: a letter `e` and an integer, or nothing. -/
def readExponent? : List Char → Option Int
  | [] => some 0
  | letter :: text => if letter = 'e' ∨ letter = 'E' then readInteger? text else none

/-- The digits after a point, and what follows them. -/
def splitFraction : List Char → List Char × List Char
  | '.' :: text => (text.takeWhile Char.isDigit, text.dropWhile Char.isDigit)
  | text => ([], text)

/--
A decimal without a sign: digits with at most one point among, before or after
them, and an optional exponent.
-/
def readUnsigned? (negative : Bool) (text : List Char) : Option Decimal :=
  let whole := text.takeWhile Char.isDigit
  let (fraction, rest) := splitFraction (text.dropWhile Char.isDigit)
  let digits := whole ++ fraction
  if digits.isEmpty then
    none
  else
    (readExponent? rest).map fun exponent =>
      ⟨negative, ofDigits digits, exponent - fraction.length⟩

def digitCount (number : Nat) : Nat :=
  (Nat.toDigits 10 number).length

/--
The nearest number of a binary format.  Magnitudes from `10 ^ 310` on overflow
every format, and those below `10 ^ (-340)` vanish in every format.
-/
def toDouble (format : BinaryFormat) (decimal : Decimal) : Double :=
  let magnitude := decimal.exponent + digitCount decimal.coefficient
  if decimal.coefficient = 0 || magnitude < -340 then
    .finite (.zero decimal.negative)
  else if 310 < magnitude then
    .infinite decimal.negative
  else
    let quanta := decimal.coefficient * FiniteDouble.one
    Double.ofQuotient format decimal.negative
      (quanta * 10 ^ decimal.exponent.toNat) (10 ^ (-decimal.exponent).toNat)

end Decimal

namespace Double

/--
The number of a format that a text denotes: a decimal, or one of the words
`inf`, `infinity` and `nan` in any case, after an optional sign.
-/
def read? (format : BinaryFormat) (text : List Char) : Option Double :=
  let (negative, unsigned) := Decimal.splitSign text
  let word := String.ofList (unsigned.map Char.toLower)
  if word = "inf" ∨ word = "infinity" then
    some (.infinite negative)
  else if word = "nan" then
    some .undefined
  else
    (Decimal.readUnsigned? negative unsigned).map (·.toDouble format)

end Double

end Stencil
