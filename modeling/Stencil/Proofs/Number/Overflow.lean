import Mathlib.Tactic.SplitIfs
import Stencil.Proofs.Number.Decimal
import Stencil.Proofs.Number.Rounding

/-!
# Numbers that are too large

A decimal has no finite double from the middle between the greatest double and
the power of two behind it on: there it is rounded to this power.
-/

namespace Stencil

-- Powers are those of the core library, as in the definitions.
attribute [local instance (high)] instPowNat

/-- A quotient is rounded to less than an even number up to the middle before it. -/
theorem roundQuotient_lt_iff {numerator denominator half : Nat} (positive : 0 < denominator)
    (half_pos : 0 < half) :
    roundQuotient numerator denominator < 2 * half ↔
      2 * numerator < (4 * half - 1) * denominator := by
  have parts := Nat.div_add_mod numerator denominator
  have rest := Nat.mod_lt numerator positive
  have large : denominator ≤ denominator * half := Nat.le_mul_of_pos_right _ half_pos
  have middle : (4 * half - 1) * denominator + denominator = 4 * (denominator * half) := by
    rw [← Nat.succ_mul, Nat.succ_eq_add_one, Nat.sub_add_cancel (by omega), Nat.mul_assoc,
      Nat.mul_comm half]
  rcases Nat.lt_trichotomy (numerator / denominator) (2 * half - 1) with below | odd | above
  · have rounded := roundQuotient_le numerator denominator
    have wholes : denominator * (numerator / denominator + 1) ≤ denominator * (2 * half - 1) :=
      Nat.mul_le_mul_left _ below
    rw [Nat.mul_add, Nat.mul_sub, Nat.mul_left_comm] at wholes
    omega
  · -- Only here do the remainder and the rule for ties decide, and the quotient is odd.
    rw [odd, Nat.mul_sub, Nat.mul_left_comm] at parts
    simp only [roundQuotient, odd]
    split_ifs <;> omega
  · have rounded := div_le_roundQuotient numerator denominator
    have wholes : denominator * (2 * half) ≤ denominator * (numerator / denominator) :=
      Nat.mul_le_mul_left _ (by omega)
    rw [Nat.mul_left_comm] at wholes
    omega
namespace BinaryFormat

variable {format : BinaryFormat} {numerator denominator : Nat}

/-- Numbers with fewer digits than the bound are rounded to less than the bound. -/
theorem round_lt_of_bitLength_lt (wide : format.precision + format.finest < format.bound)
    (shorter : bitLength (numerator / denominator) < format.bound) :
    format.round numerator denominator < 2 ^ format.bound := by
  refine Nat.lt_of_le_of_lt (round_le_two_pow numerator denominator)
    (Nat.pow_lt_pow_right (by decide) ?_)
  simp only [step]
  omega

/-- Numbers with more digits than the bound are not. -/
theorem two_pow_le_round_of_lt_bitLength (precise : 0 < format.precision)
    (wide : format.precision + format.finest < format.bound)
    (longer : format.bound < bitLength (numerator / denominator)) :
    2 ^ format.bound ≤ format.round numerator denominator := by
  refine Nat.le_trans (Nat.pow_le_pow_right Nat.two_pos (Nat.le_sub_one_of_lt longer))
    (two_pow_le_round ?_ (two_pow_le_of_lt_bitLength (by omega)))
  simp only [step]
  omega

/-- For numbers with as many digits as the bound, the last digit that is kept is the same. -/
theorem round_lt_iff_of_bitLength_eq (precise : 0 < format.precision)
    (wide : format.precision + format.finest < format.bound) (positive : 0 < denominator)
    (same : bitLength (numerator / denominator) = format.bound) :
    format.round numerator denominator < 2 ^ format.bound ↔
      2 * numerator <
        (2 * 2 ^ format.precision - 1) *
          (denominator * 2 ^ (format.bound - format.precision)) := by
  have step_eq : format.step (numerator / denominator) = format.bound - format.precision := by
    simp only [step]
    omega
  have bound_eq : 2 ^ format.bound =
      2 ^ format.precision * 2 ^ (format.bound - format.precision) := by
    rw [← Nat.pow_add, Nat.add_sub_cancel' (by omega)]
  have half_eq : 2 ^ format.precision = 2 * 2 ^ (format.precision - 1) := by
    rw [← Nat.pow_succ', Nat.succ_eq_add_one, Nat.sub_add_cancel precise]
  rw [round, step_eq, bound_eq, Nat.mul_lt_mul_right (Nat.two_pow_pos _), half_eq,
    roundQuotient_lt_iff (Nat.mul_pos positive (Nat.two_pow_pos _)) (Nat.two_pow_pos _),
    ← Nat.mul_assoc 2 2]

/--
A number is rounded to one within the bound of a format up to the middle
between the greatest number of the format and the bound.
-/
theorem round_lt_iff (precise : 0 < format.precision)
    (wide : format.precision + format.finest < format.bound) (positive : 0 < denominator) :
    format.round numerator denominator < 2 ^ format.bound ↔
      2 * numerator <
        (2 * 2 ^ format.precision - 1) *
          (denominator * 2 ^ (format.bound - format.precision)) := by
  have scaled : 2 ^ format.precision * (denominator * 2 ^ (format.bound - format.precision)) =
      2 ^ format.bound * denominator := by
    rw [Nat.mul_left_comm, ← Nat.pow_add, Nat.add_sub_cancel' (by omega), Nat.mul_comm]
  have power := Nat.two_pow_pos format.precision
  rcases Nat.lt_trichotomy (bitLength (numerator / denominator)) format.bound with
    shorter | same | longer
  · have below : numerator < 2 ^ (format.bound - 1) * denominator :=
      (Nat.div_lt_iff_lt_mul positive).1 (Nat.lt_of_lt_of_le (lt_two_pow_bitLength _)
        (Nat.pow_le_pow_right (by decide) (by omega)))
    have double : 2 ^ format.bound = 2 * 2 ^ (format.bound - 1) := by
      rw [← Nat.pow_succ', Nat.succ_eq_add_one, Nat.sub_add_cancel (by omega)]
    refine iff_of_true (round_lt_of_bitLength_lt wide shorter) ?_
    calc
      2 * numerator < 2 * (2 ^ (format.bound - 1) * denominator) := by omega
      _ = 2 ^ format.precision * (denominator * 2 ^ (format.bound - format.precision)) := by
        rw [scaled, double, Nat.mul_assoc]
      _ ≤ _ := Nat.mul_le_mul_right _ (by omega)
  · exact round_lt_iff_of_bitLength_eq precise wide positive same
  · have above : 2 ^ format.bound * denominator ≤ numerator :=
      (Nat.le_div_iff_mul_le positive).1 (two_pow_le_of_lt_bitLength longer)
    have rounded := two_pow_le_round_of_lt_bitLength precise wide longer
    refine iff_of_false (Nat.not_lt_of_le rounded) (Nat.not_lt_of_le ?_)
    calc
      _ ≤ 2 * 2 ^ format.precision * (denominator * 2 ^ (format.bound - format.precision)) :=
        Nat.mul_le_mul_right _ (Nat.sub_le _ _)
      _ = 2 * (2 ^ format.bound * denominator) := by rw [Nat.mul_assoc, scaled]
      _ ≤ 2 * numerator := Nat.mul_le_mul_left 2 above

end BinaryFormat

/-- The middle between the greatest double and the power of two behind it. -/
def Double.edge : Nat :=
  2 ^ (1024 : Nat) - 2 ^ (970 : Nat)

theorem Double.edge_le {digits : Nat} (many : 310 ≤ digits) : Double.edge ≤ 10 ^ digits := by
  have least : Double.edge ≤ 10 ^ (310 : Nat) := by decide +kernel
  exact Nat.le_trans least (@Nat.pow_le_pow_right 10 (by decide) 310 digits many)

theorem Double.edge_pos : 1 ≤ Double.edge := by
  decide +kernel

theorem Double.edge_eq :
    (2 * 2 ^ BinaryFormat.double.precision - 1) *
        2 ^ (BinaryFormat.double.bound - BinaryFormat.double.precision) =
      2 * (Double.edge * FiniteDouble.one) := by
  decide +kernel

namespace Decimal

theorem lt_ten_pow_digitCount (number : Nat) : number < 10 ^ digitCount number :=
  (Nat.length_toDigits_le_iff (by decide) Nat.length_toDigits_pos).1 (Nat.le_refl _)

theorem ten_pow_le_of_ne_zero {number : Nat} (nonzero : number ≠ 0) :
    10 ^ (digitCount number - 1) ≤ number := by
  by_cases single : digitCount number ≤ 1
  · rw [Nat.sub_eq_zero_of_le single]
    exact Nat.pos_of_ne_zero nonzero
  · apply Nat.le_of_not_lt
    intro less
    have shorter := (Nat.length_toDigits_le_iff (by decide) (by omega)).2 less
    rw [← digitCount] at shorter
    omega

/-- The decimals before the middle between the greatest double and the power of two behind it. -/
def Fits (decimal : Decimal) : Prop :=
  decimal.coefficient * 10 ^ decimal.exponent.toNat <
    Double.edge * 10 ^ (-decimal.exponent).toNat

instance (decimal : Decimal) : Decidable decimal.Fits :=
  inferInstanceAs (Decidable (_ < _))

/-- The decimals that have a finite double. -/
theorem isSome_finite?_toDouble_iff (decimal : Decimal) :
    (decimal.toDouble .double).finite?.isSome ↔ decimal.Fits := by
  have scale_pos : 0 < 10 ^ (-decimal.exponent).toNat := Nat.pow_pos (by decide)
  rw [toDouble, Fits]
  split_ifs with vanishes overflows
  · refine iff_of_true rfl ?_
    rw [Bool.or_eq_true, decide_eq_true_iff, decide_eq_true_iff] at vanishes
    have small : decimal.coefficient * 10 ^ decimal.exponent.toNat <
        1 * 10 ^ (-decimal.exponent).toNat := by
      rcases vanishes with zero | vanishes
      · rw [zero, Nat.zero_mul, Nat.one_mul]
        exact scale_pos
      · have whole : decimal.exponent.toNat = 0 := by omega
        have digits : digitCount decimal.coefficient ≤ (-decimal.exponent).toNat := by omega
        rw [whole, Nat.pow_zero, Nat.mul_one, Nat.one_mul]
        exact Nat.lt_of_lt_of_le (lt_ten_pow_digitCount _) (Nat.pow_le_pow_right (by decide) digits)
    exact Nat.lt_of_lt_of_le small (Nat.mul_le_mul_right _ Double.edge_pos)
  · refine iff_of_false (by simp [Double.finite?]) (Nat.not_lt_of_le ?_)
    have nonzero : decimal.coefficient ≠ 0 := fun zero => vanishes (by simp [zero])
    obtain ⟨digits, length_eq⟩ := Nat.exists_eq_add_of_le (show (-decimal.exponent).toNat ≤
      digitCount decimal.coefficient - 1 + decimal.exponent.toNat by omega)
    calc
      Double.edge * 10 ^ (-decimal.exponent).toNat ≤ 10 ^ digits * 10 ^ (-decimal.exponent).toNat :=
        Nat.mul_le_mul_right _ (Double.edge_le (by omega))
      _ = 10 ^ (digitCount decimal.coefficient - 1 + decimal.exponent.toNat) := by
        rw [length_eq, Nat.add_comm, Nat.pow_add]
      _ = 10 ^ (digitCount decimal.coefficient - 1) * 10 ^ decimal.exponent.toNat :=
        Nat.pow_add ..
      _ ≤ decimal.coefficient * 10 ^ decimal.exponent.toNat :=
        Nat.mul_le_mul_right _ (ten_pow_le_of_ne_zero nonzero)
  · have one_pos : 0 < FiniteDouble.one := by decide +kernel
    have finite_iff {format : BinaryFormat} {negative : Bool} {numerator denominator : Nat} :
        (Double.ofQuotient format negative numerator denominator).finite?.isSome ↔
          format.round numerator denominator < 2 ^ format.bound := by
      rw [Double.ofQuotient]
      split_ifs with within <;> simp [Double.finite?, within]
    rw [finite_iff, BinaryFormat.round_lt_iff (by decide) (by decide) scale_pos,
      Nat.mul_left_comm _ (10 ^ _), Double.edge_eq, Nat.mul_left_comm _ 2,
      Nat.mul_lt_mul_left (by decide), Nat.mul_right_comm, ← Nat.mul_assoc _ Double.edge,
      Nat.mul_lt_mul_right one_pos, Nat.mul_comm _ Double.edge]

end Decimal

end Stencil
