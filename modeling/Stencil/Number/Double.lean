/-!
# Double precision numbers

A finite double is a whole number of quanta of size `2 ^ -1074`, with a sign
and at most 53 significant binary digits.  On quanta all arithmetic is exact,
and each operation rounds once, to the nearest double and to an even last digit
on a tie.  Gradual underflow needs no rule of its own, since every double is a
whole number of quanta.
-/

namespace Stencil

-- Powers are those of the core library wherever this module is read.
attribute [local instance (high)] instPowNat

/-- How many significant bits a binary format keeps, and between which powers of two. -/
structure BinaryFormat where
  precision : Nat
  /-- The smallest positive number has `2 ^ finest` quanta. -/
  finest : Nat
  /-- The numbers have less than `2 ^ bound` quanta. -/
  bound : Nat
  precision_le : precision ≤ 53 := by decide
  bound_le : bound ≤ 2098 := by decide

namespace BinaryFormat

def double : BinaryFormat :=
  { precision := 53, finest := 0, bound := 2098 }

def single : BinaryFormat :=
  { precision := 24, finest := 925, bound := 1202 }

end BinaryFormat

/-- The nearest whole number to a quotient, the even one on a tie. -/
def roundQuotient (numerator denominator : Nat) : Nat :=
  let whole := numerator / denominator
  let twice := 2 * (numerator % denominator)
  if twice < denominator then
    whole
  else if denominator < twice then
    whole + 1
  else
    whole + whole % 2

theorem roundQuotient_le (numerator denominator : Nat) :
    roundQuotient numerator denominator ≤ numerator / denominator + 1 := by
  simp only [roundQuotient]
  split
  · omega
  · split <;> omega

def bitLength (number : Nat) : Nat :=
  if number = 0 then 0 else number.log2 + 1

theorem lt_two_pow_bitLength (number : Nat) : number < 2 ^ bitLength number := by
  by_cases zero : number = 0
  · simp [zero, bitLength]
  · simpa [bitLength, zero] using Nat.lt_log2_self

namespace BinaryFormat

/-- The logarithm of the distance between neighbours of the format from `whole` quanta on. -/
def step (format : BinaryFormat) (whole : Nat) : Nat :=
  max format.finest (bitLength whole - format.precision)

/-- A quotient of quanta, rounded to the format. -/
def round (format : BinaryFormat) (numerator denominator : Nat) : Nat :=
  let step := format.step (numerator / denominator)
  roundQuotient numerator (denominator * 2 ^ step) * 2 ^ step

/-- What is rounded has no more digits than the format keeps. -/
theorem div_lt_two_pow (format : BinaryFormat) (numerator denominator : Nat) :
    numerator / (denominator * 2 ^ format.step (numerator / denominator)) <
      2 ^ format.precision := by
  rw [← Nat.div_div_eq_div_mul]
  apply (Nat.div_lt_iff_lt_mul (Nat.two_pow_pos _)).2
  rw [← Nat.pow_add]
  refine Nat.lt_of_lt_of_le (lt_two_pow_bitLength _) (Nat.pow_le_pow_right (by decide) ?_)
  simp only [step]
  omega

/-- What is rounded has few enough significant digits. -/
theorem round_significant (format : BinaryFormat) (numerator denominator : Nat) :
    ∃ significand shift : Nat, significand < 2 ^ (53 : Nat) ∧
      format.round numerator denominator = significand * 2 ^ shift := by
  have precision := format.precision_le
  have small := format.div_lt_two_pow numerator denominator
  have rounded := roundQuotient_le numerator
    (denominator * 2 ^ format.step (numerator / denominator))
  have power : 2 ^ format.precision ≤ 2 ^ (53 : Nat) := Nat.pow_le_pow_right (by decide) precision
  by_cases carry : roundQuotient numerator
      (denominator * 2 ^ format.step (numerator / denominator)) = 2 ^ (53 : Nat)
  · refine ⟨2 ^ (52 : Nat), format.step (numerator / denominator) + 1, by decide, ?_⟩
    simp only [round]
    rw [carry, Nat.pow_succ 2 (format.step _), Nat.pow_succ 2 52]
    rw [Nat.mul_assoc, Nat.mul_comm 2]
  · exact ⟨_, _, by omega, rfl⟩

end BinaryFormat

/-- A finite double: a sign and a number of quanta of size `2 ^ -1074`. -/
structure FiniteDouble where
  negative : Bool
  quanta : Nat
  significant :
    ∃ significand shift : Nat, significand < 2 ^ (53 : Nat) ∧ quanta = significand * 2 ^ shift
  bounded : quanta < 2 ^ BinaryFormat.double.bound
  deriving DecidableEq

namespace FiniteDouble

/-- Number of quanta of the number one. -/
def one : Nat :=
  2 ^ (1074 : Nat)

def zero (negative : Bool) : FiniteDouble :=
  ⟨negative, 0, ⟨0, 0, by decide, by decide⟩, Nat.two_pow_pos _⟩

/-- The number itself, counted in quanta. -/
def value (number : FiniteDouble) : Int :=
  if number.negative then -(number.quanta : Int) else number.quanta

/-- Whether two doubles are the same number: both zeros are. -/
def equals (first second : FiniteDouble) : Bool :=
  first.value == second.value

def order (first second : FiniteDouble) : Ordering :=
  compare first.value second.value

end FiniteDouble

/-- A double: a finite one, an infinity, or the result of an operation without a result. -/
inductive Double
  | undefined
  | infinite (negative : Bool)
  | finite (number : FiniteDouble)
  deriving DecidableEq

namespace Double

/-- A quotient of quanta, rounded to a format; infinite beyond the format's bound. -/
def ofQuotient (format : BinaryFormat) (negative : Bool) (numerator denominator : Nat) :
    Double :=
  if within : format.round numerator denominator < 2 ^ format.bound then
    .finite
      { negative
        quanta := format.round numerator denominator
        significant := format.round_significant numerator denominator
        bounded := Nat.lt_of_lt_of_le within
          (Nat.pow_le_pow_right (by decide) format.bound_le) }
  else
    .infinite negative

/-- The double nearest to a whole number of quanta; `negativeZero` is the sign of a zero. -/
def ofQuanta (quanta : Int) (negativeZero : Bool) : Double :=
  ofQuotient .double (if quanta = 0 then negativeZero else quanta < 0) quanta.natAbs 1

def ofInt (integer : Int) : Double :=
  ofQuanta (integer * FiniteDouble.one) false

def finite? : Double → Option FiniteDouble
  | .finite number => some number
  | _ => none

/-- Whether two doubles are the same number; the undefined one is none. -/
def equals : Double → Double → Bool
  | .finite first, .finite second => first.equals second
  | .infinite first, .infinite second => first == second
  | _, _ => false

/-- The order of two doubles as numbers, if both are. -/
def order? : Double → Double → Option Ordering
  | .finite first, .finite second => some (first.order second)
  | .undefined, _ | _, .undefined => none
  | .infinite first, .infinite second =>
      some (if first = second then .eq else if first then .lt else .gt)
  | .infinite negative, .finite _ => some (if negative then .lt else .gt)
  | .finite _, .infinite negative => some (if negative then .gt else .lt)

/-- Whether the double is a zero of either sign. -/
def isZero : Double → Bool
  | .finite number => number.quanta == 0
  | _ => false

def negate : Double → Double
  | .undefined => .undefined
  | .infinite negative => .infinite !negative
  | .finite number => .finite { number with negative := !number.negative }

def add : Double → Double → Double
  | .finite first, .finite second =>
      ofQuanta (first.value + second.value) (first.negative && second.negative)
  | .infinite first, .infinite second =>
      if first = second then .infinite first else .undefined
  | .infinite negative, .finite _ | .finite _, .infinite negative => .infinite negative
  | .undefined, _ | _, .undefined => .undefined

def sub (first second : Double) : Double :=
  add first (negate second)

def mul : Double → Double → Double
  | .finite first, .finite second =>
      ofQuotient .double (first.negative != second.negative)
        (first.quanta * second.quanta) FiniteDouble.one
  | .infinite first, .infinite second => .infinite (first != second)
  | .infinite negative, .finite number | .finite number, .infinite negative =>
      if number.quanta = 0 then .undefined else .infinite (negative != number.negative)
  | .undefined, _ | _, .undefined => .undefined

/-- The rounded quotient; a quotient by zero is infinite, and undefined for zero by zero. -/
def div : Double → Double → Double
  | .finite first, .finite second =>
      let negative := first.negative != second.negative
      if second.quanta = 0 then
        if first.quanta = 0 then .undefined else .infinite negative
      else
        ofQuotient .double negative (first.quanta * FiniteDouble.one) second.quanta
  | .infinite _, .infinite _ => .undefined
  | .infinite negative, .finite number => .infinite (negative != number.negative)
  | .finite number, .infinite negative => .finite (.zero (negative != number.negative))
  | .undefined, _ | _, .undefined => .undefined

/-- The greatest whole number that is not greater. -/
def floor : Double → Double
  | .finite number =>
      let whole := number.quanta / FiniteDouble.one
      let rest := number.quanta % FiniteDouble.one
      let magnitude := if number.negative && rest != 0 then whole + 1 else whole
      ofQuotient .double number.negative (magnitude * FiniteDouble.one) 1
  | other => other

end Double

end Stencil
