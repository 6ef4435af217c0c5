import Stencil.Proofs.Number.Order

/-!
# The order of values

Two values have an order if both are numbers or both are texts, and the order
the other way round is the reverse.  To be less is transitive, even where the
doubles of different integers are the same; to be at most as great is not.
-/

namespace Stencil

/-! ## Numbers -/

namespace Number

variable {first middle last second : Number}

theorem signed?_eq_some_iff {number : Number} {value : Int} :
    number.signed? = some value ↔
      ∃ inRange, number = .integer value inRange ∧ value < 9223372036854775808 := by
  cases number with
  | float double => simp [signed?]
  | integer held inRange =>
      by_cases signed : held < 9223372036854775808
      · simp only [signed?, if_pos signed, Option.some.injEq, integer.injEq]
        constructor
        · rintro rfl
          exact ⟨inRange, rfl, signed⟩
        · rintro ⟨_, same, _⟩
          exact same
      · simp only [signed?, if_neg signed, reduceCtorEq, integer.injEq, false_iff]
        rintro ⟨_, rfl, below⟩
        exact signed below

/-- The order of numbers the other way round; both go the same one of the two ways. -/
theorem order?_swap (first second : Number) :
    second.order? first = (first.order? second).map Ordering.swap := by
  rw [order?_eq, order?_eq, Option.map_some, Option.some.injEq]
  cases first.signed? <;> cases second.signed? <;> exact (Int.compare_swap _ _).symm

/-- A number is less if its double is, or if both are integers with one double. -/
theorem order?_eq_lt_iff :
    first.order? second = some .lt ↔
      first.quanta < second.quanta ∨
        first.quanta = second.quanta ∧
          ∃ left right, first.signed? = some left ∧ second.signed? = some right ∧ left < right := by
  rw [order?_eq, Option.some.injEq]
  cases isLeft : first.signed? with
  | none => simp [Int.compare_eq_lt]
  | some left =>
      cases isRight : second.signed? with
      | none => simp [Int.compare_eq_lt]
      | some right =>
          obtain ⟨_, rfl, _⟩ := signed?_eq_some_iff.1 isLeft
          obtain ⟨_, rfl, _⟩ := signed?_eq_some_iff.1 isRight
          rw [Int.compare_eq_lt, quanta, quanta]
          -- Rounding may make integers equal, but it does not reverse them.
          constructor
          · intro below
            have nearest := Double.nearest_mono (Int.le_of_lt below)
            rcases Int.lt_or_eq_of_le nearest with apart | same
            · exact .inl apart
            · exact .inr ⟨same, left, right, rfl, rfl, below⟩
          · rintro (apart | ⟨-, _, _, ⟨⟩, ⟨⟩, below⟩)
            · apply Int.lt_of_not_ge
              intro above
              exact Int.not_le_of_gt apart (Double.nearest_mono above)
            · exact below

theorem order?_trans (before : first.order? middle = some .lt)
    (behind : middle.order? last = some .lt) : first.order? last = some .lt := by
  rw [order?_eq_lt_iff] at before behind ⊢
  rcases before with below | ⟨same, left, between, isLeft, isBetween, below⟩
  · rcases behind with further | ⟨again, -⟩
    · exact .inl (Int.lt_trans below further)
    · exact .inl (again ▸ below)
  · rcases behind with further | ⟨again, between', right, isBetween', isRight, further⟩
    · exact .inl (same ▸ further)
    · cases isBetween.symm.trans isBetween'
      exact .inr ⟨same.trans again, left, right, isLeft, isRight, Int.lt_trans below further⟩

end Number

/-! ## Values -/

namespace Value

variable {first middle last second : Value}

/-- The order of two values the other way round is the reverse. -/
theorem order?_swap (first second : Value) :
    second.order? first = (first.order? second).map Ordering.swap := by
  cases first with
  | number left =>
      cases second with
      | number right => exact Number.order?_swap left right
      | _ => rfl
  | string left =>
      cases second with
      | string right => exact congrArg some Std.OrientedCmp.eq_swap
      | _ => rfl
  | _ => cases second <;> rfl

theorem order?_eq_gt_iff :
    first.order? second = some .gt ↔ second.order? first = some .lt := by
  rw [order?_swap first second]
  rcases first.order? second with _ | _ | _ | _ <;> simp

/-- Two values have an order just when both are numbers or both are texts. -/
theorem isSome_order?_iff :
    (first.order? second).isSome ↔
      (∃ left right, first = .number left ∧ second = .number right) ∨
        ∃ left right, first = .string left ∧ second = .string right := by
  cases first with
  | number left =>
      cases second with
      | number right =>
          rw [order?, Number.order?_eq]
          exact iff_of_true rfl (.inl ⟨left, right, rfl, rfl⟩)
      | _ => simp [order?]
  | string left =>
      cases second with
      | string right => exact iff_of_true rfl (.inr ⟨left, right, rfl, rfl⟩)
      | _ => simp [order?]
  | _ => simp [order?]

theorem order?_trans (before : first.order? middle = some .lt)
    (behind : middle.order? last = some .lt) : first.order? last = some .lt := by
  have ordered := isSome_order?_iff.1 (Option.isSome_of_eq_some before)
  rcases ordered with ⟨left, between, rfl, rfl⟩ | ⟨left, between, rfl, rfl⟩
  · cases last with
    | number right => exact Number.order?_trans before behind
    | _ => cases behind
  · cases last with
    | string right =>
        have least := Std.TransCmp.lt_trans (Option.some.inj before) (Option.some.inj behind)
        exact congrArg some least
    | _ => cases behind

end Value

end Stencil
