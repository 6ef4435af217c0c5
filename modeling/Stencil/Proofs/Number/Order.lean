import Stencil.Evaluation
import Stencil.Proofs.Number.Rounding

/-!
# The order of integers

Two integers are equal just when they are the same, but they are ordered
exactly only up to the bound of signed 64 bits.  Beyond it their order is that
of the doubles nearest to them, which is the right one unless this is one and
the same double.
-/

namespace Stencil

-- Powers are those of the core library, as in the definitions.
attribute [local instance (high)] instPowNat

/-! ## The doubles nearest to integers -/

namespace Double

/-- The number of quanta of the double nearest to a whole number. -/
def nearestQuanta (whole : Nat) : Nat :=
  BinaryFormat.double.round (whole * FiniteDouble.one) 1

theorem nearestQuanta_mono {first second : Nat} (le : first ≤ second) :
    nearestQuanta first ≤ nearestQuanta second :=
  BinaryFormat.round_mono (by decide) (Nat.mul_le_mul_right _ le)

theorem nearestQuanta_pos {whole : Nat} (positive : 0 < whole) : 0 < nearestQuanta whole :=
  Nat.lt_of_lt_of_le (by decide +kernel : 0 < nearestQuanta 1) (nearestQuanta_mono positive)

theorem nearestQuanta_lt {whole : Nat} (small : whole ≤ 18446744073709551616) :
    nearestQuanta whole < 2 ^ BinaryFormat.double.bound :=
  Nat.lt_of_le_of_lt (nearestQuanta_mono small) (by decide +kernel)

/-- The number of quanta of the double nearest to an integer, with its sign. -/
def nearest (integer : Int) : Int :=
  if integer < 0 then -(nearestQuanta integer.natAbs : Int) else nearestQuanta integer.natAbs

theorem nearest_mono {first second : Int} (le : first ≤ second) :
    nearest first ≤ nearest second := by
  unfold nearest
  split
  · split
    · have larger := @nearestQuanta_mono second.natAbs first.natAbs (by omega)
      omega
    · omega
  · split
    · omega
    · have larger := @nearestQuanta_mono first.natAbs second.natAbs (by omega)
      omega

theorem nearest_lt_nearest {first second : Int} (negative : first < 0) (positive : 0 ≤ second) :
    nearest first < nearest second := by
  have below := @nearestQuanta_pos first.natAbs (by omega)
  rw [nearest, nearest, if_pos negative, if_neg (by omega)]
  omega

/-- Rounding keeps the order of integers that it does not make equal. -/
theorem compare_nearest {first second : Int} (apart : nearest first ≠ nearest second) :
    compare (nearest first) (nearest second) = compare first second := by
  obtain below | same | above := Int.lt_trichotomy first second
  · have less := nearest_mono (Int.le_of_lt below)
    rw [Int.compare_eq_lt.mpr below, Int.compare_eq_lt.mpr (by omega)]
  · exact absurd (congrArg nearest same) apart
  · have less := nearest_mono (Int.le_of_lt above)
    rw [Int.compare_eq_gt.mpr above, Int.compare_eq_gt.mpr (by omega)]

/-- The double of an integer of at most 64 bits is finite. -/
theorem exists_ofInt {integer : Int} (small : integer.natAbs ≤ 18446744073709551616) :
    ∃ number : FiniteDouble, ofInt integer = .finite number ∧ number.value = nearest integer := by
  have one : (0 : Int) < FiniteDouble.one := by decide +kernel
  have magnitude : (integer * FiniteDouble.one).natAbs = integer.natAbs * FiniteDouble.one := by
    rw [Int.natAbs_mul, Int.natAbs_natCast]
  have within := nearestQuanta_lt small
  rw [nearestQuanta, ← magnitude] at within
  refine ⟨_, by rw [ofInt, ofQuanta, ofQuotient, dif_pos within], ?_⟩
  have zero : integer * FiniteDouble.one = 0 ↔ integer = 0 := by
    rw [Int.mul_eq_zero]
    omega
  have negative : integer * FiniteDouble.one < 0 ↔ integer < 0 := by
    constructor
    · intro below
      apply Int.lt_of_not_ge
      intro above
      have product := Int.mul_nonneg above (Int.le_of_lt one)
      omega
    · intro below
      exact Int.mul_neg_of_neg_of_pos below one
  simp only [FiniteDouble.value, nearest, nearestQuanta, zero, negative, magnitude]
  by_cases isZero : integer = 0
  · simp [isZero]
  · simp [isZero]

end Double

/-! ## Numbers of a template -/

namespace Number

/-- The number of quanta of the double that stands for a number. -/
def quanta : Number → Int
  | .integer value _ => Double.nearest value
  | .float value => value.value

theorem exists_toDouble (number : Number) :
    ∃ double : FiniteDouble, number.toDouble = .finite double ∧ double.value = number.quanta := by
  cases number with
  | integer value inRange => exact Double.exists_ofInt (by omega)
  | float value => exact ⟨value, rfl, rfl⟩

theorem equals_toDouble_iff {first second : Number} :
    first.toDouble.equals second.toDouble ↔ first.quanta = second.quanta := by
  obtain ⟨left, isLeft, leftValue⟩ := exists_toDouble first
  obtain ⟨right, isRight, rightValue⟩ := exists_toDouble second
  rw [isLeft, isRight, Double.equals, FiniteDouble.equals, leftValue, rightValue, beq_iff_eq]

/-- Numbers are ordered as integers where both are signed, and as their doubles elsewhere. -/
theorem order?_eq (first second : Number) :
    first.order? second = some
      (match first.signed?, second.signed? with
      | some left, some right => compare left right
      | _, _ => compare first.quanta second.quanta) := by
  obtain ⟨left, isLeft, leftValue⟩ := exists_toDouble first
  obtain ⟨right, isRight, rightValue⟩ := exists_toDouble second
  have doubles : first.toDouble.order? second.toDouble =
      some (compare first.quanta second.quanta) := by
    rw [isLeft, isRight, Double.order?, FiniteDouble.order, leftValue, rightValue]
  rw [order?, doubles]
  cases first.signed? <;> cases second.signed? <;> rfl

/--
Two integers whose order can be told: both fit in signed 64 bits, or they are
the same, or the doubles nearest to them are not.
-/
def Distinguished (first second : Int) : Prop :=
  (first < 9223372036854775808 ∧ second < 9223372036854775808) ∨ first = second ∨
    ¬ (Double.ofInt first).equals (Double.ofInt second)

instance (first second : Int) : Decidable (Distinguished first second) :=
  inferInstanceAs (Decidable (_ ∨ _ ∨ _))

variable {first second : Int}
  {firstRange : -9223372036854775808 ≤ first ∧ first < 18446744073709551616}
  {secondRange : -9223372036854775808 ≤ second ∧ second < 18446744073709551616}

theorem equals_ofInt_iff
    (firstRange : -9223372036854775808 ≤ first ∧ first < 18446744073709551616)
    (secondRange : -9223372036854775808 ≤ second ∧ second < 18446744073709551616) :
    (Double.ofInt first).equals (Double.ofInt second) ↔
      Double.nearest first = Double.nearest second :=
  @equals_toDouble_iff (integer first firstRange) (integer second secondRange)

/-- Two integers are equal as numbers just when they are the same. -/
theorem equals_integer_iff :
    (integer first firstRange).equals (integer second secondRange) ↔ first = second := by
  have doubles := equals_ofInt_iff firstRange secondRange
  unfold equals
  simp only [signed?, natural?, toDouble]
  by_cases firstSigned : first < 9223372036854775808
  · by_cases secondSigned : second < 9223372036854775808
    · simp [firstSigned, secondSigned]
    · have secondNatural : 0 ≤ second := by omega
      by_cases firstNatural : 0 ≤ first
      · simp [firstNatural, secondNatural, secondSigned]
        omega
      · have apart := @Double.nearest_lt_nearest first second (by omega) secondNatural
        simp [firstNatural, secondSigned, doubles]
        omega
  · have firstNatural : 0 ≤ first := by omega
    by_cases secondNatural : 0 ≤ second
    · simp [firstNatural, secondNatural, firstSigned]
      omega
    · have apart := @Double.nearest_lt_nearest second first (by omega) firstNatural
      simp [secondNatural, firstSigned, doubles]
      omega

/-- Integers of signed 64 bits are compared exactly, all others as the doubles nearest to them. -/
theorem order?_integer :
    (integer first firstRange).order? (integer second secondRange) =
      some (if first < 9223372036854775808 ∧ second < 9223372036854775808 then
        compare first second
      else
        compare (Double.nearest first) (Double.nearest second)) := by
  rw [order?_eq]
  by_cases firstSigned : first < 9223372036854775808
  · by_cases secondSigned : second < 9223372036854775808
    · simp [signed?, firstSigned, secondSigned]
    · simp [signed?, secondSigned, quanta]
  · simp [signed?, firstSigned, quanta]

theorem order?_of_distinguished (distinguished : Distinguished first second) :
    (integer first firstRange).order? (integer second secondRange) =
      some (compare first second) := by
  rw [order?_integer]
  by_cases signed : first < 9223372036854775808 ∧ second < 9223372036854775808
  · rw [if_pos signed]
  · rw [if_neg signed]
    obtain both | same | apart := distinguished
    · exact absurd both signed
    · rw [same, Std.compare_self, Std.compare_self]
    · rw [equals_ofInt_iff firstRange secondRange] at apart
      rw [Double.compare_nearest apart]

/-- Integers whose order cannot be told are compared as equal. -/
theorem order?_of_not_distinguished (undistinguished : ¬ Distinguished first second) :
    (integer first firstRange).order? (integer second secondRange) = some .eq := by
  simp only [Distinguished, not_or, Decidable.not_not] at undistinguished
  obtain ⟨large, _, doubles⟩ := undistinguished
  rw [equals_ofInt_iff firstRange secondRange] at doubles
  rw [order?_integer, if_neg large, doubles, Std.compare_self]

/-- In a template a comparison of two numbers is one of their values. -/
theorem isTruthy_comparison {scope : Scope} {leftExpr rightExpr : Expr} {left right : Number}
    (isLeft : leftExpr.eval scope = .number left)
    (isRight : rightExpr.eval scope = .number right) (operator : CompareOperator) :
    ((Expr.comparison operator leftExpr rightExpr).eval scope).isTruthy =
      operator.holds (.number left) (.number right) := by
  rw [Expr.eval, isLeft, isRight]
  rfl

/--
Two integers are equal just when they are the same.  That their order is the
one of the integers, that it is `eq` just for equal ones, that just one of `<`,
`==` and `>` holds of them in a template, and that `<=` holds just when `<` or
`==` does, is all the same: that their order can be told.
-/
theorem order?_eq_compare_iff (first second : Int)
    (firstRange : -9223372036854775808 ≤ first ∧ first < 18446744073709551616)
    (secondRange : -9223372036854775808 ≤ second ∧ second < 18446744073709551616) :
    let left := integer first firstRange
    let right := integer second secondRange
    (left.equals right ↔ first = second) ∧
      (left.order? right = some (compare first second) ↔ Distinguished first second) ∧
      ((left.order? right = some .eq ↔ left.equals right) ↔ Distinguished first second) ∧
      ∀ (scope : Scope) (leftExpr rightExpr : Expr),
        leftExpr.eval scope = .number left → rightExpr.eval scope = .number right →
        let holds := fun operator =>
          ((Expr.comparison operator leftExpr rightExpr).eval scope).isTruthy
        ([.less, .equal, .greater].countP holds = 1 ↔ Distinguished first second) ∧
          ((holds .lessOrEqual ↔ holds .less ∨ holds .equal) ↔ Distinguished first second) := by
  intro left right
  have equal : left.equals right ↔ first = second := equals_integer_iff
  by_cases distinguished : Distinguished first second
  · have order : left.order? right = some (compare first second) :=
      order?_of_distinguished distinguished
    refine ⟨equal, by simp only [order, distinguished], ?_, ?_⟩
    · simp [order, equal, distinguished]
    · intro scope leftExpr rightExpr isLeft isRight
      simp only [isTruthy_comparison isLeft isRight, distinguished, iff_true]
      obtain below | same | above := Int.lt_trichotomy first second
      · have compared := Int.compare_eq_lt.mpr below
        have unequal := mt equal.mp (Int.ne_of_lt below)
        simp_all [CompareOperator.holds, Value.order?, Value.equals]
      · have compared := Int.compare_eq_eq.mpr same
        simp_all [CompareOperator.holds, Value.order?, Value.equals]
      · have compared := Int.compare_eq_gt.mpr above
        have unequal := mt equal.mp (Int.ne_of_gt above)
        simp_all [CompareOperator.holds, Value.order?, Value.equals]
  · have different : first ≠ second := by
      rintro rfl
      exact distinguished (.inr (.inl rfl))
    have order : left.order? right = some .eq := order?_of_not_distinguished distinguished
    have unequal := mt equal.mp different
    refine ⟨equal, ?_, ?_, ?_⟩
    · have uncompared : Ordering.eq ≠ compare first second :=
        fun same => different (Int.compare_eq_eq.mp same.symm)
      simp [order, distinguished, uncompared]
    · simp [order, distinguished, unequal]
    · intro scope leftExpr rightExpr isLeft isRight
      simp only [isTruthy_comparison isLeft isRight, distinguished, iff_false]
      simp [CompareOperator.holds, Value.order?, Value.equals, order, unequal]

theorem order?_eq_compare_iff_of_max :
    let scope := Scope.start .empty ⟨⟨0⟩, 0, 0, 0, 0, none⟩
    let left := integer 18446744073709551615 (by decide)
    let right := integer 9223372036854775808 (by decide)
    let holds := fun operator => ((Expr.comparison operator (.literal (.number left))
      (.literal (.number right))).eval scope).isTruthy
    Distinguished 18446744073709551615 9223372036854775808 ∧
      left.order? right = some .gt ∧ [.less, .equal, .greater].countP holds = 1 := by
  have distinguished : Distinguished 18446744073709551615 9223372036854775808 := by
    decide +kernel
  obtain ⟨-, order, -, templates⟩ := order?_eq_compare_iff 18446744073709551615
    9223372036854775808 (by decide) (by decide)
  exact ⟨distinguished, order.mpr distinguished,
    (templates _ (.literal (.number _)) (.literal (.number _)) rfl rfl).1.mpr distinguished⟩

/-- The two largest integers are compared as equal although they are not. -/
theorem order?_max_eq :
    (integer 18446744073709551615 (by decide)).order?
        (integer 18446744073709551614 (by decide)) = some .eq ∧
      compare (18446744073709551615 : Int) 18446744073709551614 = .gt ∧
      ¬ (integer 18446744073709551615 (by decide)).equals
        (integer 18446744073709551614 (by decide)) := by
  decide +kernel

end Number

end Stencil
