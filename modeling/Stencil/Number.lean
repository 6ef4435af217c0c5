import Stencil.Number.Layout

/-!
# Numbers

A number of a template is an integer that fits in 64 bits, with or without a
sign, or a finite double.  Two integers that both fit in signed 64 bits are
compared exactly, and so are two natural numbers for equality; every other pair
is compared as doubles.
-/

namespace Stencil

/-- An integer of 64 bits or a finite double. -/
inductive Number
  | integer (value : Int) (inRange : -9223372036854775808 ≤ value ∧ value < 18446744073709551616)
  | float (value : FiniteDouble)
  deriving DecidableEq

namespace Number

def ofInt? (value : Int) : Option Number :=
  if inRange : -9223372036854775808 ≤ value ∧ value < 18446744073709551616 then
    some (.integer value inRange)
  else
    none

def ofDouble? (value : Double) : Option Number :=
  value.finite?.map .float

/-- The integer of a number, if it fits in signed 64 bits. -/
def signed? : Number → Option Int
  | .integer value _ => if value < 9223372036854775808 then some value else none
  | .float _ => none

/-- The integer of a number, if it is not negative. -/
def natural? : Number → Option Nat
  | .integer value _ => if 0 ≤ value then some value.toNat else none
  | .float _ => none

def toDouble : Number → Double
  | .integer value _ => .ofInt value
  | .float value => .finite value

def equals (first second : Number) : Bool :=
  match first.signed?, second.signed? with
  | some left, some right => left == right
  | _, _ =>
      match first.natural?, second.natural? with
      | some left, some right => left == right
      | _, _ => first.toDouble.equals second.toDouble

def order? (first second : Number) : Option Ordering :=
  match first.signed?, second.signed? with
  | some left, some right => some (compare left right)
  | _, _ => first.toDouble.order? second.toDouble

/-- The text of a number, with the layout of its doubles. -/
def write (layout : DecimalLayout) : Number → List Char
  | .integer value _ => Decimal.writeInteger value
  | .float value => layout.write value

end Number

end Stencil
