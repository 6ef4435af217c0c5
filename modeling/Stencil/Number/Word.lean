/-!
# Words

Integers of signed 64 bits, on which sums and differences wrap around and
quotients are rounded toward zero.  Quotients that are rounded down, and the
remainders that belong to them, are made from those by a correction.
-/

namespace Stencil

namespace Word

/-- Whether two words have no quotient: the divisor is zero, or the quotient is one too large. -/
def undivided (first second : Int64) : Bool :=
  second == 0 || first == Int64.minValue && second == -1

/-- The quotient rounded toward zero, if there is one. -/
def quotient? (first second : Int64) : Option Int64 :=
  if undivided first second then none else some (first / second)

/-- The remainder with the sign of the dividend, if there is a quotient. -/
def remainder? (first second : Int64) : Option Int64 :=
  if undivided first second then none else some (first % second)

/-- Whether exactly one of two words is negative. -/
def opposed (first second : Int64) : Bool :=
  decide (first < 0) != decide (second < 0)

/-- The quotient rounded down: if it is negative and there is a rest, the one below. -/
def floorQuotient? (first second : Int64) : Option Int64 :=
  (quotient? first second).map fun quotient =>
    if first % second != 0 && opposed first second then quotient - 1 else quotient

/-- The remainder with the sign of the divisor. -/
def floorRemainder? (first second : Int64) : Option Int64 :=
  (remainder? first second).map fun remainder =>
    if remainder != 0 && opposed remainder second then remainder + second else remainder

end Word

end Stencil
