import Stencil.Number.Decimal

/-!
# Shortest decimals

The decimals that read back as a given double form an interval around it.
Among them this file finds the one with the fewest digits, and of several such
the nearest, by trying the decimal grids from coarse to fine.  On each grid
only the two neighbours of the double can be the answer.
-/

namespace Stencil

-- Powers are those of the core library wherever this module is read.
attribute [local instance (high)] instPowNat

structure ShortDecimal where
  coefficient : Nat
  exponent : Int
  deriving DecidableEq

namespace FiniteDouble

/-- The numbers that read back as a double, counted in quarters of a quantum. -/
structure ReadingInterval where
  lowest : Nat
  middle : Nat
  highest : Nat
  /-- Whether the ends belong to the interval. -/
  closed : Bool

/--
The interval of a double in a format reaches half way to each neighbour.  Below
a power of two the neighbour is half as far away.
-/
def readingInterval (format : BinaryFormat) (number : FiniteDouble) : ReadingInterval :=
  let shift := format.step number.quanta
  let step := 2 ^ shift
  let significand := number.quanta / step
  let narrow := significand = 2 ^ (format.precision - 1) && format.finest < shift
  { lowest := 4 * number.quanta - (if narrow then step else 2 * step)
    middle := 4 * number.quanta
    highest := 4 * number.quanta + 2 * step
    closed := significand % 2 == 0 }

namespace ReadingInterval

/-- Whether a point, counted in parts of a quarter, lies in the interval. -/
def has (interval : ReadingInterval) (parts point : Nat) : Bool :=
  if interval.closed then
    interval.lowest * parts ≤ point && point ≤ interval.highest * parts
  else
    interval.lowest * parts < point && point < interval.highest * parts

/--
The multiple of `10 ^ exponent` in the interval that is nearest to its middle.
Of two that are equally near it is the even one or the greater one.
-/
def nearestOn (interval : ReadingInterval) (evenOnTie : Bool) (exponent : Int) : Option Nat :=
  let parts := 10 ^ (-exponent).toNat
  let grid := 4 * one * 10 ^ exponent.toNat
  let middle := interval.middle * parts
  let below := middle / grid
  let gapBelow := middle - below * grid
  let gapAbove := (below + 1) * grid - middle
  let upward :=
    gapAbove < gapBelow || (gapAbove = gapBelow && (!evenOnTie || below % 2 = 1))
  match interval.has parts (below * grid), interval.has parts ((below + 1) * grid) with
  | true, true => some (if upward then below + 1 else below)
  | true, false => some below
  | false, true => some (below + 1)
  | false, false => none

/-- The first answer of `nearestOn`, from a grid on to finer ones. -/
def search (interval : ReadingInterval) (evenOnTie : Bool) :
    Nat → Int → Option ShortDecimal
  | 0, _ => none
  | grids + 1, exponent =>
      match interval.nearestOn evenOnTie exponent with
      | some coefficient => some ⟨coefficient, exponent⟩
      | none => interval.search evenOnTie grids (exponent - 1)

end ReadingInterval

/--
The shortest decimal that reads back as a number of a format.  The search
begins at a power of ten beyond the number and ends after twenty-four grids,
more than the seventeen digits that always suffice.
-/
def shortest (format : BinaryFormat) (evenOnTie : Bool) (number : FiniteDouble) :
    ShortDecimal :=
  let bits : Int := bitLength number.quanta - 1074
  let beyond := bits * 30103 / 100000 + 2
  ((number.readingInterval format).search evenOnTie 24 beyond).getD ⟨0, 0⟩

end FiniteDouble

end Stencil
