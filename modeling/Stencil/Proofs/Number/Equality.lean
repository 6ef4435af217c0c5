import Stencil.Proofs.Number.Order
import Stencil.Proofs.Value.Equality

/-!
# Equality of numbers

A double equals every integer to which it is the nearest double.  From `2 ^ 53`
on these can be several, which are not equal among themselves: equality is
transitive through all numbers but such doubles.
-/

namespace Stencil

-- Powers are those of the core library, as in the definitions.
attribute [local instance (high)] instPowNat

/-! ## Integers that are doubles -/

namespace BinaryFormat

/-- A number is not changed by rounding if it is a whole number of steps. -/
theorem round_eq_of_dvd {format : BinaryFormat} {number : Nat}
    (divides : 2 ^ format.step number ∣ number) : format.round number 1 = number := by
  obtain ⟨steps, isNumber⟩ := divides
  rw [Nat.mul_comm] at isNumber
  calc
    format.round number 1 =
        roundQuotient number (2 ^ format.step number) * 2 ^ format.step number :=
      round_one number
    _ = roundQuotient (steps * 2 ^ format.step number) (2 ^ format.step number) *
        2 ^ format.step number := by rw [← isNumber]
    _ = steps * 2 ^ format.step number := by rw [roundQuotient_mul (Nat.two_pow_pos _)]
    _ = number := isNumber.symm

end BinaryFormat

namespace Double

/-- Whole numbers of at most 53 bits are doubles. -/
theorem nearestQuanta_eq {whole : Nat} (small : whole < 9007199254740992) :
    nearestQuanta whole = whole * FiniteDouble.one := by
  have below : whole * FiniteDouble.one < 2 ^ (1127 : Nat) := by
    calc
      whole * FiniteDouble.one < 9007199254740992 * FiniteDouble.one :=
        Nat.mul_lt_mul_of_pos_right small (by decide +kernel)
      _ = 2 ^ (1127 : Nat) := by decide +kernel
  have length : bitLength (whole * FiniteDouble.one) ≤ 1127 := by
    apply Nat.le_of_not_lt
    intro longer
    have power := two_pow_le_of_lt_bitLength longer
    omega
  -- So the distance between neighbours is at most one.
  have fine : BinaryFormat.double.step (whole * FiniteDouble.one) ≤ 1074 := by
    simp only [BinaryFormat.step, BinaryFormat.double]
    omega
  have divides : 2 ^ BinaryFormat.double.step (whole * FiniteDouble.one) ∣ FiniteDouble.one := by
    refine ⟨2 ^ (1074 - BinaryFormat.double.step (whole * FiniteDouble.one)), ?_⟩
    rw [← Nat.pow_add, Nat.add_sub_cancel' fine, FiniteDouble.one]
  exact BinaryFormat.round_eq_of_dvd (Nat.dvd_mul_left_of_dvd divides whole)

/-- An integer whose nearest double is small is that double. -/
theorem nearest_eq_of_small {integer : Int}
    (small : (nearest integer).natAbs < 9007199254740992 * FiniteDouble.one) :
    nearest integer = integer * FiniteDouble.one := by
  have magnitude : (nearest integer).natAbs = nearestQuanta integer.natAbs := by
    unfold nearest
    split <;> omega
  have less : integer.natAbs < 9007199254740992 := by
    apply Nat.lt_of_not_le
    intro large
    have exact : nearestQuanta 9007199254740992 = 9007199254740992 * FiniteDouble.one := by
      decide +kernel
    have above := nearestQuanta_mono large
    omega
  have isDouble := nearestQuanta_eq less
  unfold nearest
  split
  · next negative =>
      have opposite : integer = -(integer.natAbs : Int) := by omega
      rw [isDouble, Int.natCast_mul, ← Int.neg_mul, ← opposite]
  · next natural =>
      have same : integer = (integer.natAbs : Int) := by omega
      rw [isDouble, Int.natCast_mul, ← same]

end Double

/-! ## Numbers and their doubles -/

namespace Number

theorem equals_float_iff {value : FiniteDouble} {number : Number} :
    (float value).equals number ↔ value.value = number.quanta :=
  equals_toDouble_iff

theorem equals_iff_float {number : Number} {value : FiniteDouble} :
    number.equals (float value) ↔ number.quanta = value.value := by
  rw [equals_comm, equals_float_iff, eq_comm]

/-- Equal numbers have the same double. -/
theorem quanta_eq_of_equals {first second : Number} (equal : first.equals second) :
    first.quanta = second.quanta := by
  cases first with
  | float value => exact equals_float_iff.1 equal
  | integer value inRange =>
      cases second with
      | float other => exact equals_iff_float.1 equal
      | integer other otherRange =>
          cases equals_integer_iff.1 equal
          rfl

theorem equals_self (number : Number) : number.equals number := by
  cases number with
  | integer value inRange => exact equals_integer_iff.2 rfl
  | float value => exact equals_float_iff.2 rfl

/-! ## Where equality is transitive -/

/-- The double of a number is the nearest one to several integers. -/
def Blurred (number : Number) : Prop :=
  ∃ first second : Int, first ≠ second ∧
    (-9223372036854775808 ≤ first ∧ first < 18446744073709551616) ∧
    (-9223372036854775808 ≤ second ∧ second < 18446744073709551616) ∧
    Double.nearest first = number.quanta ∧ Double.nearest second = number.quanta

theorem blurred_congr {first second : Number} (same : first.quanta = second.quanta) :
    first.Blurred ↔ second.Blurred := by
  unfold Blurred
  rw [same]

/-- Below `2 ^ 53` no double is the nearest one to several integers. -/
theorem not_blurred_of_small {number : Number}
    (small : number.quanta.natAbs < 9007199254740992 * FiniteDouble.one) : ¬ number.Blurred := by
  rintro ⟨first, second, apart, -, -, isFirst, isSecond⟩
  apply apart
  have one : (FiniteDouble.one : Int) ≠ 0 := by decide +kernel
  apply Int.eq_of_mul_eq_mul_right one
  calc
    first * FiniteDouble.one = Double.nearest first :=
      (Double.nearest_eq_of_small (isFirst ▸ small)).symm
    _ = Double.nearest second := isFirst.trans isSecond.symm
    _ = second * FiniteDouble.one := Double.nearest_eq_of_small (isSecond ▸ small)

/-- Numbers that equal a third one are equal, unless they are integers on both sides of a double
that is blurred. -/
theorem equals_of_equals {first middle last : Number}
    (clear : ∀ value, middle = .float value → ¬ middle.Blurred)
    (before : first.equals middle) (behind : middle.equals last) : first.equals last := by
  have same : first.quanta = last.quanta :=
    (quanta_eq_of_equals before).trans (quanta_eq_of_equals behind)
  cases first with
  | float value => exact equals_float_iff.2 same
  | integer left leftRange =>
      cases last with
      | float value => exact equals_iff_float.2 same
      | integer right rightRange =>
          apply equals_integer_iff.2
          cases middle with
          | integer value inRange =>
              exact (equals_integer_iff.1 before).trans (equals_integer_iff.1 behind)
          | float value =>
              apply Decidable.byContradiction
              intro apart
              exact clear value rfl ⟨left, right, apart, leftRange, rightRange,
                equals_iff_float.1 before, (equals_float_iff.1 behind).symm⟩

/-- Equality is transitive through just those numbers that are no blurred doubles. -/
theorem forall_equals_iff {middle : Number} :
    (∀ first last : Number, first.equals middle → middle.equals last → first.equals last) ↔
      ∀ value, middle = .float value → ¬ middle.Blurred := by
  constructor
  · rintro transitive value rfl ⟨left, right, apart, leftRange, rightRange, isLeft, isRight⟩
    apply apart
    have joined := transitive (.integer left leftRange) (.integer right rightRange)
      (equals_iff_float.2 isLeft) (equals_float_iff.2 isRight.symm)
    exact equals_integer_iff.1 joined
  · intro clear first last
    exact equals_of_equals clear

/-- Just those numbers that are not blurred have the same equals as each number they equal. -/
theorem forall_equals_congr_iff {first : Number} :
    (∀ second : Number, first.equals second →
        ∀ number : Number, number.equals first = number.equals second) ↔
      ¬ first.Blurred := by
  constructor
  · rintro congruent ⟨left, right, apart, leftRange, rightRange, isLeft, isRight⟩
    obtain ⟨double, -, isDouble⟩ := exists_toDouble first
    have same := congruent (.float double) (equals_iff_float.2 isDouble.symm)
    -- Both integers equal the double, and so the number itself.
    have leftEqual : (integer left leftRange).equals first := by
      rw [same, equals_iff_float, isDouble]
      exact isLeft
    have rightEqual : (integer right rightRange).equals first := by
      rw [same, equals_iff_float, isDouble]
      exact isRight
    have joined := congruent (.integer left leftRange) (equals_comm _ _ ▸ leftEqual)
    rw [joined, equals_integer_iff] at rightEqual
    exact apart rightEqual.symm
  · intro clear second equal number
    have same := quanta_eq_of_equals equal
    have secondClear := mt (blurred_congr same).2 clear
    rw [Bool.eq_iff_iff]
    constructor
    · intro before
      exact equals_of_equals (fun _ _ => clear) before equal
    · intro before
      rw [equals_comm] at equal
      exact equals_of_equals (fun _ _ => secondClear) before equal

end Number

end Stencil
