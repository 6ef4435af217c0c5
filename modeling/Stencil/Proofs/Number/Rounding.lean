import Mathlib.Tactic.SplitIfs
import Stencil.Number.Double

/-!
# Rounding keeps the order

Rounding to a binary format never puts a greater number before a smaller one.
Within the numbers of one bit length the distance between neighbours is the
same; from one length to the next, a power of two stands between the two.
-/

namespace Stencil

-- Powers are those of the core library, as in the definitions.
attribute [local instance (high)] instPowNat

theorem div_le_roundQuotient (numerator denominator : Nat) :
    numerator / denominator ≤ roundQuotient numerator denominator := by
  simp only [roundQuotient]
  split_ifs <;> omega

theorem roundQuotient_mono {first second : Nat} (denominator : Nat) (le : first ≤ second) :
    roundQuotient first denominator ≤ roundQuotient second denominator := by
  have bound := roundQuotient_le first denominator
  have quotients : first / denominator ≤ second / denominator := Nat.div_le_div_right le
  have floor := div_le_roundQuotient second denominator
  rcases Nat.lt_or_eq_of_le quotients with less | same
  · omega
  · -- Between the same two whole numbers the remainders decide.
    have firstParts := Nat.div_add_mod first denominator
    have secondParts := Nat.div_add_mod second denominator
    have remainders : first % denominator ≤ second % denominator := by
      rw [same] at firstParts
      omega
    simp only [roundQuotient, same]
    split_ifs <;> omega

theorem roundQuotient_mul {denominator : Nat} (positive : 0 < denominator) (whole : Nat) :
    roundQuotient (whole * denominator) denominator = whole := by
  simp only [roundQuotient, Nat.mul_mod_left, Nat.mul_zero, Nat.mul_div_left _ positive]
  rw [if_pos positive]

theorem two_pow_le_of_lt_bitLength {number length : Nat} (shorter : length < bitLength number) :
    2 ^ length ≤ number := by
  by_cases zero : number = 0
  · simp [bitLength, zero] at shorter
  · rw [bitLength, if_neg zero] at shorter
    exact Nat.le_trans (Nat.pow_le_pow_right (by decide) (Nat.le_of_lt_succ shorter))
      (Nat.log2_self_le zero)

theorem bitLength_mono {first second : Nat} (le : first ≤ second) :
    bitLength first ≤ bitLength second := by
  apply Nat.le_of_not_lt
  intro longer
  have power := two_pow_le_of_lt_bitLength longer
  have bound := lt_two_pow_bitLength second
  omega

namespace BinaryFormat

variable {format : BinaryFormat}

theorem round_one (number : Nat) :
    format.round number 1 =
      roundQuotient number (2 ^ format.step number) * 2 ^ format.step number := by
  simp only [round, Nat.div_one, Nat.one_mul]

theorem step_mono {first second : Nat} (le : first ≤ second) :
    format.step first ≤ format.step second := by
  have longer := bitLength_mono le
  simp only [step]
  omega

/-- What is rounded is not greater than the power of two behind it. -/
theorem round_le_two_pow (numerator denominator : Nat) :
    format.round numerator denominator ≤
      2 ^ (format.precision + format.step (numerator / denominator)) := by
  have below := format.div_lt_two_pow numerator denominator
  have rounded := roundQuotient_le numerator
    (denominator * 2 ^ format.step (numerator / denominator))
  rw [round, Nat.pow_add]
  exact Nat.mul_le_mul_right _ (by omega)

/-- What is rounded is not smaller than a power of two before it. -/
theorem two_pow_le_round {numerator denominator exponent : Nat}
    (coarse : format.step (numerator / denominator) ≤ exponent)
    (above : 2 ^ exponent ≤ numerator / denominator) :
    2 ^ exponent ≤ format.round numerator denominator := by
  have split : 2 ^ exponent = 2 ^ (exponent - format.step (numerator / denominator)) *
      2 ^ format.step (numerator / denominator) := by
    rw [← Nat.pow_add, Nat.sub_add_cancel coarse]
  have digits : 2 ^ (exponent - format.step (numerator / denominator)) ≤
      numerator / (denominator * 2 ^ format.step (numerator / denominator)) := by
    rw [← Nat.div_div_eq_div_mul, Nat.le_div_iff_mul_le (Nat.two_pow_pos _), ← split]
    exact above
  rw [round, split]
  exact Nat.mul_le_mul_right _ (Nat.le_trans digits (div_le_roundQuotient _ _))

theorem round_mono (precise : 0 < format.precision) {first second : Nat} (le : first ≤ second) :
    format.round first 1 ≤ format.round second 1 := by
  have steps := @step_mono format first second le
  rcases Nat.lt_or_eq_of_le steps with finer | same
  · -- The second number is longer, so that a power of two stands between the two.
    have length : bitLength second = format.precision + format.step second := by
      simp only [step] at finer ⊢
      omega
    have power : 2 ^ (format.precision + format.step second - 1) ≤ second :=
      two_pow_le_of_lt_bitLength (by omega)
    have below := @round_le_two_pow format first 1
    have above := @two_pow_le_round format second 1 (format.precision + format.step second - 1)
    rw [Nat.div_one] at below above
    calc
      format.round first 1 ≤ 2 ^ (format.precision + format.step first) := below
      _ ≤ 2 ^ (format.precision + format.step second - 1) :=
        Nat.pow_le_pow_right (by decide) (by omega)
      _ ≤ format.round second 1 := above (by omega) power
  · rw [round_one, round_one, same]
    exact Nat.mul_le_mul_right _ (roundQuotient_mono _ le)

end BinaryFormat

end Stencil
