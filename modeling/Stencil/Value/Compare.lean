import Stencil.Text.Search
import Stencil.Value.Text

/-!
# Comparing values

Equality, order and containment.  Values of different kinds are never equal,
and only numbers among themselves and strings among themselves have an order.
-/

namespace Stencil

namespace Value

mutual

/-- Whether two values are equal.  An object equals itself only. -/
def equals : Value → Value → Bool
  | .nil, .nil => true
  | .bool first, .bool second => first == second
  | .number first, .number second => first.equals second
  | .string first, .string second => first == second
  | .sequence first, .sequence second => equalItems first second
  | .mapping first, .mapping second => equalEntries first second
  | .object first, .object second => first.handle == second.handle
  | _, _ => false

/-- Whether two lists of values are equal, item by item. -/
def equalItems : List Value → List Value → Bool
  | [], [] => true
  | first :: firsts, second :: seconds => equals first second && equalItems firsts seconds
  | _, _ => false

/-- Whether two mappings have equal names and values. -/
def equalEntries : List (String × Value) → List (String × Value) → Bool
  | [], [] => true
  | (name, first) :: firsts, (other, second) :: seconds =>
      name == other && equals first second && equalEntries firsts seconds
  | _, _ => false

end

def order? : Value → Value → Option Ordering
  | .number first, .number second => first.order? second
  | .string first, .string second => some (compare first second)
  | _, _ => none

/-- Whether a string holds a text, a sequence an item, or a mapping a name. -/
def contains : Value → Value → Bool
  | .string text, needle => Text.occurs needle.text text.toList
  | .sequence items, needle => items.any fun item => equals item needle
  | .mapping entries, needle => Entries.has entries needle.render
  | _, _ => false

/-- What stands for a value in comparisons: for an object, the text that it displays. -/
def comparable : Value → Value
  | .object host =>
      match host.display with
      | some text => .string text
      | none => .object host
  | value => value

end Value

end Stencil
