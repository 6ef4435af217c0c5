import Mathlib.Data.Rat.Floor
import Stencil.Proofs.Filter.Operand
import Stencil.Proofs.Number.Order
import Stencil.Proofs.Number.Word

/-!
# Division of integers

Values that count as integers are divided as integers: the quotient is rounded
down, and the remainder has the sign of the divisor.  A value that is divided by
zero stays as it is.
-/

namespace Stencil

-- Powers are those of the core library, as in the definitions.
attribute [local instance (high)] instPowNat

namespace Filter

namespace Operand

/-- Only the integer zero counts as zero: no other one has zero as its nearest double. -/
theorem isZero_integer_iff {value : Int} (fits : Fits value) :
    (integer value).isZero ↔ value = 0 := by
  obtain ⟨lower, upper⟩ := fits
  obtain ⟨double, isDouble, isNearest⟩ := @Double.exists_ofInt value (by omega)
  have quanta : double.quanta = 0 ↔ double.value = 0 := by
    unfold FiniteDouble.value
    split <;> omega
  rw [isZero, toDouble, isDouble, Double.isZero, beq_iff_eq, quanta, isNearest]
  constructor
  · intro nearest
    apply Decidable.byContradiction
    intro nonzero
    have positive := @Double.nearestQuanta_pos value.natAbs (by omega)
    unfold Double.nearest at nearest
    split at nearest <;> omega
  · rintro rfl
    decide +kernel

end Operand

open Operand

/-! ## Words as integers -/

theorem toInt_ofInt {value : Int} (fits : Fits value) : (Int64.ofInt value).toInt = value :=
  Int64.toInt_ofInt_of_le fits.1 fits.2

theorem fits_toInt (word : Int64) : Fits word.toInt :=
  ⟨Int64.le_toInt word, Int64.toInt_lt word⟩

/-- What is computed with integers is an integer if it fits. -/
theorem compute_integers {onIntegers : Int → Int → Option Int}
    {onDoubles : Double → Double → Double} {first second result : Int}
    (computed : onIntegers first second = some result) (fits : Fits result) :
    ∃ inRange, compute onIntegers onDoubles (.integer first) (.integer second) =
      .number (.integer result inRange) := by
  obtain ⟨inRange, isNumber⟩ := Value.exists_ofInt fits
  refine ⟨inRange, ?_⟩
  rw [← isNumber]
  simp [compute, computed, fitting?_eq, fits]

/-- What is computed with words is an integer of signed 64 bits. -/
theorem compute_onWords {operation : Int64 → Int64 → Option Int64}
    {onDoubles : Double → Double → Double} {first second : Int} {result : Int64}
    (computed : operation (.ofInt first) (.ofInt second) = some result) :
    ∃ inRange, compute (onWords operation) onDoubles (.integer first) (.integer second) =
      .number (.integer result.toInt inRange) := by
  apply compute_integers _ (fits_toInt result)
  rw [onWords, computed, Option.map_some]

/-! ## Rounding down -/

theorem floor_div_eq_of_nonneg (first : Int) {second : Int} (natural : 0 ≤ second) :
    ⌊(first : ℚ) / second⌋ = first.fdiv second := by
  lift second to Nat using natural
  rw [Int.fdiv_eq_ediv_of_nonneg first (Int.natCast_nonneg _)]
  exact Rat.floor_intCast_div_natCast first second

theorem floor_div_eq_fdiv (first second : Int) : ⌊(first : ℚ) / second⌋ = first.fdiv second := by
  rcases Int.le_total 0 second with natural | negative
  · exact floor_div_eq_of_nonneg first natural
  · calc
      ⌊(first : ℚ) / second⌋ = ⌊((-first : Int) : ℚ) / ((-second : Int) : ℚ)⌋ := by
        rw [Int.cast_neg, Int.cast_neg, neg_div_neg_eq]
      _ = (-first).fdiv (-second) := floor_div_eq_of_nonneg (-first) (by omega)
      _ = first.fdiv second := Int.neg_fdiv_neg first second

/-- A remainder has the sign of the divisor and is smaller. -/
theorem sign_fmod {first second : Int} (nonzero : second ≠ 0) :
    (first.fmod second = 0 ∨ (first.fmod second).sign = second.sign) ∧
      (first.fmod second).natAbs < second.natAbs := by
  rcases Int.lt_or_gt_of_ne nonzero with negative | positive
  · obtain ⟨-, above, below⟩ := (Int.fdiv_fmod_unique' (a := first) negative).1 ⟨rfl, rfl⟩
    refine ⟨?_, by omega⟩
    rcases Int.lt_or_eq_of_le below with less | zero
    · exact .inr ((Int.sign_eq_neg_one_of_neg less).trans
        (Int.sign_eq_neg_one_of_neg negative).symm)
    · exact .inl zero
  · obtain ⟨-, above, below⟩ := (Int.fdiv_fmod_unique (a := first) positive).1 ⟨rfl, rfl⟩
    refine ⟨?_, by omega⟩
    rcases Int.lt_or_eq_of_le above with greater | zero
    · exact .inr ((Int.sign_eq_one_of_pos greater).trans (Int.sign_eq_one_of_pos positive).symm)
    · exact .inl zero.symm

/--
Values that count as integers are divided as such.  A zero argument leaves the
value as it is.  Else the quotient is rounded down, the remainder belongs to it
and has the sign of the argument, and no step on words leaves them, except for
the quotient of the least word by `-1`.
-/
theorem dividedBy_modulo_of_countsAs {value : Value} {argument : Option Value}
    {first second : Int} (isFirst : value.CountsAs first)
    (isSecond : (argument.getD .nil).CountsAs second) :
    (second = 0 → dividedBy value argument = value ∧ modulo value argument = value) ∧
      (second ≠ 0 → ¬ (first = -9223372036854775808 ∧ second = -1) →
        let quotient := ⌊(first : ℚ) / second⌋
        let remainder := first - second * quotient
        (∃ inRange, dividedBy value argument = .number (.integer quotient inRange)) ∧
          (∃ inRange, modulo value argument = .number (.integer remainder inRange)) ∧
          (remainder = 0 ∨ remainder.sign = second.sign) ∧
          remainder.natAbs < second.natAbs ∧
          second * quotient + remainder = first ∧
          (Int64.ofInt first).toInt = first ∧ (Int64.ofInt second).toInt = second ∧
          Word.DividedExactly (.ofInt first) (.ofInt second)) := by
  have left := ofValue_of_countsAs isFirst
  have right : ofArgument argument = .integer second := by
    rw [ofArgument_eq, ofValue_of_countsAs isSecond]
  have isFirstWord := toInt_ofInt (fits_of_countsAs isFirst)
  have isSecondWord := toInt_ofInt (fits_of_countsAs isSecond)
  have zero := isZero_integer_iff (fits_of_countsAs isSecond)
  constructor
  · intro isZero
    rw [dividedBy, modulo, right]
    simp only [zero.2 isZero, if_true, and_self]
  · intro nonzero fitting quotient remainder
    have divided : Word.undivided (.ofInt first) (.ofInt second) = false := by
      rw [Word.undivided_eq_false_iff, isFirstWord, isSecondWord]
      exact ⟨nonzero, fitting⟩
    have isQuotient : quotient = first.fdiv second := floor_div_eq_fdiv first second
    have isRemainder : remainder = first.fmod second := by
      rw [Int.fmod_def, ← isQuotient]
    have counts : (Operand.integer second).isZero = false := by
      rw [← Bool.not_eq_true]
      exact mt zero.1 nonzero
    obtain ⟨sign, smaller⟩ := @sign_fmod first second nonzero
    refine ⟨?_, ?_, isRemainder ▸ sign, isRemainder ▸ smaller, by omega, isFirstWord, isSecondWord,
      Word.dividedExactly_of_undivided_eq_false divided⟩
    · obtain ⟨word, computed, isWord⟩ := Word.exists_floorQuotient? divided
      rw [isFirstWord, isSecondWord, ← isQuotient] at isWord
      rw [dividedBy, left, right, ← isWord]
      simp only [counts, Bool.false_eq_true, if_false]
      exact compute_onWords computed
    · obtain ⟨word, computed, isWord⟩ := Word.exists_floorRemainder? divided
      rw [isFirstWord, isSecondWord, ← isRemainder] at isWord
      rw [modulo, left, right, ← isWord]
      simp only [counts, Bool.false_eq_true, if_false]
      exact compute_onWords computed

/-- The least word, as a text between blanks, divided by the greatest. -/
theorem dividedBy_modulo_of_countsAs_text :
    let value := Value.string " -9223372036854775808 "
    let argument := some (Value.number (.integer 9223372036854775807 (by decide)))
    value.CountsAs (-9223372036854775808) ∧
      (argument.getD .nil).CountsAs 9223372036854775807 ∧
      (∃ inRange, dividedBy value argument = .number (.integer (-2) inRange)) ∧
      ∃ inRange, modulo value argument = .number (.integer 9223372036854775806 inRange) := by
  intro value argument
  have isFirst : value.CountsAs (-9223372036854775808) :=
    .numeral rfl (by decide +kernel) (by decide)
  have isSecond : (argument.getD .nil).CountsAs 9223372036854775807 :=
    .integer _ (by decide)
  obtain ⟨quotient, remainder, -⟩ :=
    (dividedBy_modulo_of_countsAs isFirst isSecond).2 (by decide) (by decide)
  rw [floor_div_eq_fdiv] at quotient remainder
  exact ⟨isFirst, isSecond, quotient, remainder⟩

end Filter

end Stencil
