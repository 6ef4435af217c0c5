/-!
# Results that may fail

What a result is made of, and the result without the reason of a failure.
-/

namespace Except

universe u v

variable {ε : Type u} {α β : Type v}

theorem map_eq_ok_iff {change : α → β} {result : Except ε α} {value : β} :
    result.map change = .ok value ↔ ∃ before, result = .ok before ∧ change before = value := by
  cases result with
  | error failure => simp [Except.map]
  | ok before => simp [Except.map]

theorem map_eq_error_iff {change : α → β} {result : Except ε α} {failure : ε} :
    result.map change = .error failure ↔ result = .error failure := by
  cases result <;> simp [Except.map]

theorem bind_eq_ok_iff {next : α → Except ε β} {result : Except ε α} {value : β} :
    (result >>= next) = .ok value ↔ ∃ before, result = .ok before ∧ next before = .ok value := by
  cases result with
  | error failure => simp [bind, Except.bind]
  | ok before => simp [bind, Except.bind]

@[simp]
theorem toOption_ok (value : α) : (Except.ok value : Except ε α).toOption = some value :=
  rfl

@[simp]
theorem toOption_error (failure : ε) : (Except.error failure : Except ε α).toOption = none :=
  rfl

@[simp]
theorem toOption_pure (value : α) : (pure value : Except ε α).toOption = some value :=
  rfl

@[simp]
theorem toOption_bind (result : Except ε α) (next : α → Except ε β) :
    (result >>= next).toOption = result.toOption.bind fun value => (next value).toOption := by
  cases result <;> rfl

@[simp]
theorem toOption_functor_map (change : α → β) (result : Except ε α) :
    (change <$> result).toOption = result.toOption.map change := by
  cases result <;> rfl

@[simp]
theorem isOk_ok (value : α) : (Except.ok value : Except ε α).isOk = true :=
  rfl

@[simp]
theorem isOk_error (failure : ε) : (Except.error failure : Except ε α).isOk = false :=
  rfl

theorem isOk_iff_exists {result : Except ε α} :
    result.isOk ↔ ∃ value, result = .ok value := by
  cases result <;> simp

theorem isOk_map (change : α → β) (result : Except ε α) :
    (result.map change).isOk = result.isOk := by
  cases result <;> rfl

theorem toOption_map (change : α → β) (result : Except ε α) :
    (result.map change).toOption = result.toOption.map change := by
  cases result <;> rfl

theorem toOption_eq_some_iff {result : Except ε α} {value : α} :
    result.toOption = some value ↔ result = .ok value := by
  cases result <;> simp

theorem toOption_map_eq_some_iff {change : α → β} {result : Except ε α} {value : β} :
    result.toOption.map change = some value ↔
      ∃ before, result = .ok before ∧ change before = value := by
  cases result <;> simp

end Except
