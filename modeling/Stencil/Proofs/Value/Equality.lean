import Stencil.Value.Compare

/-!
# Equality of values

Whether two values are equal does not depend on their order, although numbers
are compared in three ways.
-/

namespace Stencil

theorem Double.equals_comm (first second : Double) :
    first.equals second = second.equals first := by
  cases first with
  | undefined => cases second <;> rfl
  | infinite negative =>
      cases second with
      | infinite other => exact BEq.comm
      | _ => rfl
  | finite number =>
      cases second with
      | finite other => exact BEq.comm
      | _ => rfl

theorem Number.equals_comm (first second : Number) :
    first.equals second = second.equals first := by
  -- Both orders take the same one of the three ways.
  have doubles := Double.equals_comm first.toDouble second.toDouble
  unfold equals
  cases first.signed? <;> cases second.signed? <;>
    cases first.natural? <;> cases second.natural? <;>
    simp only [doubles, BEq.comm]

namespace Value

mutual

theorem equals_comm : ∀ first second : Value, first.equals second = second.equals first
  | .nil, second => by cases second <;> rfl
  | .bool value, second => by
      cases second with
      | bool other => exact BEq.comm
      | _ => rfl
  | .number value, second => by
      cases second with
      | number other => exact Number.equals_comm value other
      | _ => rfl
  | .string text, second => by
      cases second with
      | string other => exact BEq.comm
      | _ => rfl
  | .sequence items, second => by
      cases second with
      | sequence others => exact equalItems_comm items others
      | _ => rfl
  | .mapping entries, second => by
      cases second with
      | mapping others => exact equalEntries_comm entries others
      | _ => rfl
  | .object host, second => by
      cases second with
      | object other => exact BEq.comm
      | _ => rfl

theorem equalItems_comm : ∀ firsts seconds : List Value,
    equalItems firsts seconds = equalItems seconds firsts
  | [], seconds => by cases seconds <;> rfl
  | first :: firsts, seconds => by
      cases seconds with
      | nil => rfl
      | cons second seconds =>
          rw [equalItems, equalItems, equals_comm first second, equalItems_comm firsts seconds]

theorem equalEntries_comm : ∀ firsts seconds : List (String × Value),
    equalEntries firsts seconds = equalEntries seconds firsts
  | [], seconds => by cases seconds <;> rfl
  | (name, first) :: firsts, seconds => by
      cases seconds with
      | nil => rfl
      | cons second seconds =>
          obtain ⟨other, second⟩ := second
          rw [equalEntries, equalEntries, equals_comm first second,
            equalEntries_comm firsts seconds, @BEq.comm _ _ _ name other]

end

end Value

end Stencil
