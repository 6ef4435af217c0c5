import Stencil.Proofs.Filter.Operand
import Stencil.Proofs.Number.Order

/-!
# Exact arithmetic

Sums, differences and products of integers are exact where both operands and
the result fit in signed 64 bits.  Everywhere else they are finite doubles,
also where only an operand does not fit.
-/

namespace Stencil

-- Powers are those of the core library, as in the definitions.
attribute [local instance (high)] instPowNat

/-! ## Doubles that are not too large -/

namespace BinaryFormat

/-- The distance between neighbours is not greater than a number between them. -/
theorem two_pow_step_le (whole : Nat) : 2 ^ double.step whole ≤ whole + 1 := by
  by_cases zero : whole = 0
  · subst zero
    decide
  · have shorter : double.step whole < bitLength whole := by
      simp only [step, double, bitLength, if_neg zero]
      omega
    have power := two_pow_le_of_lt_bitLength shorter
    omega

/-- Rounding makes a quotient at most about twice as large. -/
theorem round_double_le (numerator denominator : Nat) :
    double.round numerator denominator ≤ 2 * (numerator / denominator) + 1 := by
  let whole := numerator / denominator
  let distance := 2 ^ double.step whole
  have rounded : roundQuotient numerator (denominator * distance) ≤ whole / distance + 1 := by
    rw [Nat.div_div_eq_div_mul]
    exact roundQuotient_le _ _
  calc
    double.round numerator denominator =
        roundQuotient numerator (denominator * distance) * distance := rfl
    _ ≤ (whole / distance + 1) * distance := Nat.mul_le_mul_right _ rounded
    _ = whole / distance * distance + distance := by rw [Nat.add_mul, Nat.one_mul]
    _ ≤ whole + (whole + 1) := Nat.add_le_add (Nat.div_mul_le_self _ _) (two_pow_step_le whole)
    _ = 2 * whole + 1 := by omega

end BinaryFormat

namespace Double

theorem exists_ofQuotient {negative : Bool} {numerator denominator : Nat}
    (small : 2 * (numerator / denominator) + 1 < 2 ^ BinaryFormat.double.bound) :
    ∃ number : FiniteDouble, ofQuotient .double negative numerator denominator = .finite number := by
  have within := Nat.lt_of_le_of_lt (BinaryFormat.round_double_le numerator denominator) small
  exact ⟨_, by rw [ofQuotient, dif_pos within]⟩

/-- The double of an integer of 64 bits is at most `2 ^ 64`. -/
theorem exists_ofInt_le {integer : Int} (small : integer.natAbs ≤ 18446744073709551616) :
    ∃ number : FiniteDouble, ofInt integer = .finite number ∧
      number.quanta ≤ 18446744073709551616 * FiniteDouble.one := by
  obtain ⟨number, isNumber, isNearest⟩ := exists_ofInt small
  refine ⟨number, isNumber, ?_⟩
  have exact : nearestQuanta 18446744073709551616 = 18446744073709551616 * FiniteDouble.one := by
    decide +kernel
  have bound := nearestQuanta_mono small
  have magnitude : number.quanta = nearestQuanta integer.natAbs := by
    unfold FiniteDouble.value nearest at isNearest
    split at isNearest <;> split at isNearest <;> omega
  omega

/-- Numbers of few quanta have a finite sum. -/
theorem exists_add {first second : FiniteDouble} {bound : Nat} (firstSmall : first.quanta ≤ bound)
    (secondSmall : second.quanta ≤ bound)
    (small : 2 * (2 * bound) + 1 < 2 ^ BinaryFormat.double.bound) :
    ∃ number, add (.finite first) (.finite second) = .finite number := by
  have magnitude : (first.value + second.value).natAbs ≤ 2 * bound := by
    unfold FiniteDouble.value
    split <;> split <;> omega
  rw [add, ofQuanta]
  apply exists_ofQuotient
  rw [Nat.div_one]
  exact Nat.lt_of_le_of_lt (by omega) small

theorem exists_mul {first second : FiniteDouble} {bound : Nat} (firstSmall : first.quanta ≤ bound)
    (secondSmall : second.quanta ≤ bound)
    (small : 2 * (bound * bound / FiniteDouble.one) + 1 < 2 ^ BinaryFormat.double.bound) :
    ∃ number, mul (.finite first) (.finite second) = .finite number := by
  have product : first.quanta * second.quanta / FiniteDouble.one ≤
      bound * bound / FiniteDouble.one :=
    Nat.div_le_div_right (Nat.mul_le_mul firstSmall secondSmall)
  rw [mul]
  apply exists_ofQuotient
  exact Nat.lt_of_le_of_lt (by omega) small

end Double

namespace Filter

open Operand (Fits)

/--
What a filter gives for two integers: their exact result just if they and the
result fit in signed 64 bits, and a double just if one of them does not.
-/
structure ExactWithin (given : Value) (first second exact : Int) (rounded : Double) : Prop where
  integer_iff : (∃ inRange, given = .number (.integer exact inRange)) ↔
    Fits first ∧ Fits second ∧ Fits exact
  double_iff : (∃ double, rounded = .finite double ∧ given = .number (.float double)) ↔
    ¬ (Fits first ∧ Fits second ∧ Fits exact)

variable {first second : Int}
  {firstRange : -9223372036854775808 ≤ first ∧ first < 18446744073709551616}
  {secondRange : -9223372036854775808 ≤ second ∧ second < 18446744073709551616}

theorem compute_ofValue (onIntegers : Int → Int → Int) (onDoubles : Double → Double → Double) :
    compute (fun left right => some (onIntegers left right)) onDoubles
        (.ofValue (.number (.integer first firstRange)))
        (.ofArgument (some (.number (.integer second secondRange)))) =
      if Fits first ∧ Fits second ∧ Fits (onIntegers first second) then
        .ofInt (onIntegers first second)
      else
        .ofDouble (onDoubles (.ofInt first) (.ofInt second)) := by
  rw [Operand.ofArgument_eq, Option.getD_some, Operand.ofValue_integer, Operand.ofValue_integer]
  by_cases left : Fits first
  · by_cases right : Fits second
    · by_cases result : Fits (onIntegers first second) <;>
        simp [compute, Operand.fitting?_eq, Operand.toDouble, left, right, result]
    · simp [compute, Operand.toDouble, left, right]
  · by_cases right : Fits second <;> simp [compute, Operand.toDouble, left, right]

theorem exactWithin_compute {onIntegers : Int → Int → Int} {onDoubles : Double → Double → Double}
    (finite : ∃ double, onDoubles (.ofInt first) (.ofInt second) = .finite double) :
    ExactWithin
      (compute (fun left right => some (onIntegers left right)) onDoubles
        (.ofValue (.number (.integer first firstRange)))
        (.ofArgument (some (.number (.integer second secondRange)))))
      first second (onIntegers first second) (onDoubles (.ofInt first) (.ofInt second)) := by
  obtain ⟨double, isDouble⟩ := finite
  rw [compute_ofValue]
  by_cases within : Fits first ∧ Fits second ∧ Fits (onIntegers first second)
  · obtain ⟨inRange, isInteger⟩ := Value.exists_ofInt within.2.2
    rw [if_pos within, isInteger]
    constructor
    · exact iff_of_true ⟨inRange, rfl⟩ within
    · refine iff_of_false ?_ (not_not_intro within)
      rintro ⟨other, -, impossible⟩
      cases impossible
  · rw [if_neg within, isDouble]
    constructor
    · refine iff_of_false ?_ within
      rintro ⟨inRange, impossible⟩
      cases impossible
    · exact iff_of_true ⟨double, rfl, rfl⟩ within

/--
The sum, the difference and the product of two integers are exact just if both
fit in signed 64 bits and the result does, too, and doubles just if not so.
-/
theorem exactWithin_plus_minus_times (first second : Int)
    (firstRange : -9223372036854775808 ≤ first ∧ first < 18446744073709551616)
    (secondRange : -9223372036854775808 ≤ second ∧ second < 18446744073709551616) :
    let value := Value.number (.integer first firstRange)
    let argument := some (Value.number (.integer second secondRange))
    ExactWithin (plus value argument) first second (first + second)
        (.add (.ofInt first) (.ofInt second)) ∧
      ExactWithin (minus value argument) first second (first - second)
        (.sub (.ofInt first) (.ofInt second)) ∧
      ExactWithin (times value argument) first second (first * second)
        (.mul (.ofInt first) (.ofInt second)) := by
  intro value argument
  obtain ⟨left, isLeft, leftSmall⟩ := @Double.exists_ofInt_le first (by omega)
  obtain ⟨right, isRight, rightSmall⟩ := @Double.exists_ofInt_le second (by omega)
  have sumSmall : 2 * (2 * (18446744073709551616 * FiniteDouble.one)) + 1 <
      2 ^ BinaryFormat.double.bound := by decide +kernel
  refine ⟨exactWithin_compute ?_, exactWithin_compute ?_, exactWithin_compute ?_⟩
  · rw [isLeft, isRight]
    exact Double.exists_add leftSmall rightSmall sumSmall
  · rw [isLeft, isRight, Double.sub, Double.negate]
    exact Double.exists_add leftSmall rightSmall sumSmall
  · rw [isLeft, isRight]
    exact Double.exists_mul leftSmall rightSmall (by decide +kernel)

/-- The greatest and the least integer that fit have an exact sum. -/
theorem exactWithin_plus_minus_times_ends :
    let value := Value.number (.integer 9223372036854775807 (by decide))
    let argument := some (Value.number (.integer (-9223372036854775808) (by decide)))
    ∃ inRange, plus value argument = .number (.integer (-1) inRange) := by
  intro value argument
  obtain ⟨sum, -⟩ := exactWithin_plus_minus_times 9223372036854775807 (-9223372036854775808)
    (by decide) (by decide)
  exact sum.integer_iff.2 (by decide)

/-- The difference of the two largest integers is one, but it is given as another number. -/
theorem minus_max_ne_one :
    let value := Value.number (.integer 18446744073709551615 (by decide))
    let argument := some (Value.number (.integer 18446744073709551614 (by decide)))
    (18446744073709551615 : Int) - 18446744073709551614 = 1 ∧ Fits 1 ∧
      ¬ (minus value argument).equals (.number (.integer 1 (by decide))) := by
  decide +kernel

end Filter

end Stencil
