import Stencil.Value

/-!
# Filters on values of all kinds
-/

namespace Stencil

namespace Filter

/-- Number of characters, items or entries; zero for values that have none. -/
def size (value : Value) (_ : Option Value) : Value :=
  .ofInt (value.size?.getD 0)

/-- Whether a value counts as missing: nil, `false`, or an empty string or sequence. -/
def isBlank : Value → Bool
  | .nil => true
  | .bool value => !value
  | .string text => text.isEmpty
  | .sequence items => items.isEmpty
  | _ => false

/-- The argument in place of a value that counts as missing. -/
def default (value : Value) (argument : Option Value) : Value :=
  match argument with
  | some fallback => if isBlank value then fallback else value
  | none => value

end Filter

end Stencil
