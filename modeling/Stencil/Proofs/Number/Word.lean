import Mathlib.Tactic.SplitIfs
import Stencil.Number.Word

/-!
# Division of words

Where two words have a quotient, no step of their division wraps around, so
that the corrected quotient and remainder are those of the integers: the
quotient is rounded down, and the remainder has the sign of the divisor.
-/

namespace Stencil

namespace Word

/-! ## Correcting the quotient of integers -/

section Integers

variable {first second : Int}

theorem natAbs_tmod_lt (nonzero : second ≠ 0) : (first.tmod second).natAbs < second.natAbs := by
  rw [Int.natAbs_tmod]
  exact Nat.mod_lt _ (Int.natAbs_pos.2 nonzero)

/-- A rest has the sign of the dividend. -/
theorem tmod_neg_iff (rest : first.tmod second ≠ 0) : first.tmod second < 0 ↔ first < 0 := by
  by_cases negative : first < 0
  · have opposite := Int.tmod_nonneg second (by omega : 0 ≤ -first)
    rw [Int.neg_tmod] at opposite
    omega
  · have natural := Int.tmod_nonneg second (by omega : 0 ≤ first)
    omega

/-- If a rest is left, the quotient is at most half of the dividend. -/
theorem natAbs_tdiv_le (rest : first.tmod second ≠ 0) (nonzero : second ≠ 0) :
    (first.tdiv second).natAbs ≤ first.natAbs / 2 := by
  have small := @natAbs_tmod_lt first second nonzero
  have divisor : 2 ≤ second.natAbs := by omega
  rw [Int.natAbs_tdiv]
  exact Nat.div_le_div_left divisor (by decide)

/-- The quotient and the remainder that are rounded down come from those toward zero. -/
theorem fdiv_and_fmod_eq (nonzero : second ≠ 0) :
    first.fdiv second =
        (if first.tmod second ≠ 0 ∧ (first < 0 ↔ ¬ second < 0) then first.tdiv second - 1
        else first.tdiv second) ∧
      first.fmod second =
        (if first.tmod second ≠ 0 ∧ (first < 0 ↔ ¬ second < 0) then first.tmod second + second
        else first.tmod second) := by
  have parts := Int.mul_tdiv_add_tmod first second
  have small := @natAbs_tmod_lt first second nonzero
  have sign := @tmod_neg_iff first second
  rcases Int.lt_or_gt_of_ne nonzero with negative | positive
  · apply (Int.fdiv_fmod_unique' negative).2
    split_ifs with opposed
    · rw [Int.mul_sub]
      omega
    · omega
  · apply (Int.fdiv_fmod_unique positive).2
    split_ifs with opposed
    · rw [Int.mul_sub]
      omega
    · omega

end Integers

/-! ## The steps on words -/

section Words

variable {first second : Int64}

theorem undivided_eq_false_iff :
    undivided first second = false ↔ second.toInt ≠ 0 ∧
      ¬ (first.toInt = -9223372036854775808 ∧ second.toInt = -1) := by
  simp [undivided, ← Int64.toInt_inj]

theorem opposed_iff : opposed first second ↔ (first.toInt < 0 ↔ ¬ second.toInt < 0) := by
  simp only [opposed, bne_iff_ne, ne_eq, decide_eq_decide, Int64.lt_iff_toInt_lt, Int64.toInt_zero]
  omega

theorem rest_iff : first % second ≠ 0 ↔ first.toInt.tmod second.toInt ≠ 0 := by
  rw [ne_eq, ← Int64.toInt_inj, Int64.toInt_mod, Int64.toInt_zero]

theorem toInt_div (divided : undivided first second = false) :
    (first / second).toInt = first.toInt.tdiv second.toInt := by
  by_cases isMin : first = Int64.minValue
  · apply Int64.toInt_div_of_ne_right
    rintro rfl
    exact (undivided_eq_false_iff.1 divided).2 ⟨isMin ▸ rfl, rfl⟩
  · exact Int64.toInt_div_of_ne_left first second isMin

/-- One less than a quotient that leaves a rest is still a word. -/
theorem toInt_div_sub_one (divided : undivided first second = false)
    (rest : first % second ≠ 0) :
    (first / second - 1).toInt = (first / second).toInt - 1 := by
  have nonzero := (undivided_eq_false_iff.1 divided).1
  have half := natAbs_tdiv_le (rest_iff.1 rest) nonzero
  have lower := Int64.le_toInt first
  have upper := Int64.toInt_lt first
  rw [Int64.toInt_sub, Int64.toInt_one, toInt_div divided]
  apply Int.bmod_eq_of_le <;> omega

/-- Words of opposite signs have a word as their sum. -/
theorem toInt_add_of_opposed (opposite : opposed first second) :
    (first + second).toInt = first.toInt + second.toInt := by
  have signs := opposed_iff.1 opposite
  have lower := Int64.le_toInt first
  have upper := Int64.toInt_lt first
  have below := Int64.le_toInt second
  have above := Int64.toInt_lt second
  rw [Int64.toInt_add]
  apply Int.bmod_eq_of_le <;> omega

/-- The quotient is lowered where a rest is left and the signs differ. -/
theorem lowers_iff :
    (first % second != 0 && opposed first second) ↔
      first.toInt.tmod second.toInt ≠ 0 ∧ (first.toInt < 0 ↔ ¬ second.toInt < 0) := by
  rw [Bool.and_eq_true, bne_iff_ne, rest_iff, opposed_iff]

/-- The remainder is raised just where the quotient is lowered, since it has the sign of the
dividend. -/
theorem raises_iff :
    (first % second != 0 && opposed (first % second) second) ↔
      first.toInt.tmod second.toInt ≠ 0 ∧ (first.toInt < 0 ↔ ¬ second.toInt < 0) := by
  rw [Bool.and_eq_true, bne_iff_ne, rest_iff, opposed_iff, Int64.toInt_mod]
  refine and_congr_right fun rest => ?_
  rw [tmod_neg_iff rest]

/-- The quotient of words rounded down is the one of their integers. -/
theorem exists_floorQuotient? (divided : undivided first second = false) :
    ∃ quotient, floorQuotient? first second = some quotient ∧
      quotient.toInt = first.toInt.fdiv second.toInt := by
  have nonzero := (undivided_eq_false_iff.1 divided).1
  have corrected := (@fdiv_and_fmod_eq first.toInt second.toInt nonzero).1
  rw [floorQuotient?, quotient?, divided, if_neg (by decide), Option.map_some]
  refine ⟨_, rfl, ?_⟩
  by_cases lowered : first % second != 0 && opposed first second
  · have rest : first % second ≠ 0 := rest_iff.2 (lowers_iff.1 lowered).1
    rw [if_pos lowered, corrected, if_pos (lowers_iff.1 lowered), toInt_div_sub_one divided rest,
      toInt_div divided]
  · rw [if_neg lowered, corrected, if_neg (mt lowers_iff.2 lowered), toInt_div divided]

/-- The remainder of words with the sign of the divisor is the one of their integers. -/
theorem exists_floorRemainder? (divided : undivided first second = false) :
    ∃ remainder, floorRemainder? first second = some remainder ∧
      remainder.toInt = first.toInt.fmod second.toInt := by
  have nonzero := (undivided_eq_false_iff.1 divided).1
  have corrected := (@fdiv_and_fmod_eq first.toInt second.toInt nonzero).2
  rw [floorRemainder?, remainder?, divided, if_neg (by decide), Option.map_some]
  refine ⟨_, rfl, ?_⟩
  by_cases raised : first % second != 0 && opposed (first % second) second
  · have opposite : opposed (first % second) second := (Bool.and_eq_true_iff.1 raised).2
    rw [if_pos raised, corrected, if_pos (raises_iff.1 raised), toInt_add_of_opposed opposite,
      Int64.toInt_mod]
  · rw [if_neg raised, corrected, if_neg (mt raises_iff.2 raised), Int64.toInt_mod]

example : floorQuotient? (-7) 2 = some (-4) ∧ floorRemainder? (-7) 2 = some 1 := by
  decide

/--
The words are divided without leaving them: the divisor is not zero, and each
step gives the integer that it gives where integers have no bounds.
-/
structure DividedExactly (first second : Int64) : Prop where
  nonzero : second.toInt ≠ 0
  quotient : (first / second).toInt = first.toInt.tdiv second.toInt
  remainder : (first % second).toInt = first.toInt.tmod second.toInt
  lowered : first % second ≠ 0 → opposed first second →
    (first / second - 1).toInt = first.toInt.tdiv second.toInt - 1
  raised : first % second ≠ 0 → opposed (first % second) second →
    (first % second + second).toInt = first.toInt.tmod second.toInt + second.toInt

theorem dividedExactly_of_undivided_eq_false (divided : undivided first second = false) :
    DividedExactly first second where
  nonzero := (undivided_eq_false_iff.1 divided).1
  quotient := toInt_div divided
  remainder := Int64.toInt_mod first second
  lowered rest _ := by rw [toInt_div_sub_one divided rest, toInt_div divided]
  raised _ opposite := by rw [toInt_add_of_opposed opposite, Int64.toInt_mod]

end Words

end Word

end Stencil
