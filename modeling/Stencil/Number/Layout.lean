import Stencil.Number.Shortest

/-!
# Layouts of decimals

The digits of a double are fixed by `FiniteDouble.shortest`; a layout decides
how they are written.  Two are in use: the plain one of rendered templates and
the one of JSON texts.
-/

namespace Stencil

/-- How the shortest decimal of a number is written. -/
structure DecimalLayout where
  /-- The format whose numbers the decimal has to tell apart. -/
  format : BinaryFormat
  /-- Whether an even last digit is preferred when two decimals are equally near. -/
  evenOnTie : Bool
  /-- Whether a number with this power of ten in front is written without an exponent. -/
  positional : Int → Bool
  /-- Whether whole numbers end in `.0`. -/
  wholePoint : Bool

namespace DecimalLayout

/-- Rendered text: digits in their places, never an exponent, and no `.0`. -/
def plain : DecimalLayout :=
  { format := .double, evenOnTie := false, positional := fun _ => true, wholePoint := false }

/-- JSON text: an exponent from `10 ^ 16` on and below `10 ^ (-5)`. -/
def json : DecimalLayout :=
  { format := .double
    evenOnTie := true
    positional := fun power => -5 ≤ power && power < 16
    wholePoint := true }

/-- JSON text of a number in single precision. -/
def jsonSingle : DecimalLayout :=
  { format := .single
    evenOnTie := true
    positional := fun power => -6 ≤ power && power < 13
    wholePoint := true }

/-- Digits with a decimal point that many places from their left end. -/
def placePoint (wholePoint : Bool) (digits : List Char) (point : Int) : List Char :=
  if point ≤ 0 then
    '0' :: '.' :: (List.replicate (-point).toNat '0' ++ digits)
  else if digits.length ≤ point then
    digits ++ List.replicate (point.toNat - digits.length) '0' ++
      (if wholePoint then ['.', '0'] else [])
  else
    digits.take point.toNat ++ '.' :: digits.drop point.toNat

/-- Digits in scientific notation, with the sign of the exponent always shown. -/
def scientific (digits : List Char) (power : Int) : List Char :=
  let significand :=
    match digits with
    | first :: second :: rest => first :: '.' :: second :: rest
    | short => short
  let sign := if power < 0 then '-' else '+'
  significand ++ 'e' :: sign :: Nat.toDigits 10 power.natAbs

def write (layout : DecimalLayout) (number : FiniteDouble) : List Char :=
  let unsigned :=
    if number.quanta = 0 then
      if layout.wholePoint then ['0', '.', '0'] else ['0']
    else
      let decimal := number.shortest layout.format layout.evenOnTie
      let digits := Nat.toDigits 10 decimal.coefficient
      let point := decimal.exponent + digits.length
      if layout.positional (point - 1) then
        placePoint layout.wholePoint digits point
      else
        scientific digits (point - 1)
  if number.negative then '-' :: unsigned else unsigned

end DecimalLayout

end Stencil
