import Stencil.Config
import Stencil.Filter.Text
import Stencil.Sorting
import Stencil.Value.Compare

/-!
# Filters on sequences

Values other than sequences have no first and last item, and pass through the
other filters unchanged.
-/

namespace Stencil

namespace Filter

def first (value : Value) (_ : Option Value) : Value :=
  (value.items?.bind List.head?).getD .nil

def last (value : Value) (_ : Option Value) : Value :=
  (value.items?.bind List.getLast?).getD .nil

/-- The texts of the items with the argument between them, a space without one. -/
def join (value : Value) (argument : Option Value) : Value :=
  match value with
  | .sequence items =>
      .ofText (List.intercalate ((textOf? argument).getD [' ']) (items.map Value.text))
  | other => other

def reverse (value : Value) (_ : Option Value) : Value :=
  match value with
  | .sequence items => .sequence items.reverse
  | other => other

/-- How items are compared when they are sorted; items without an order count as equal. -/
def rank (first second : Value) : Ordering :=
  (first.order? second).getD .eq

/-- The items in ascending order.  A list that is too long for insertion is sorted by `long`. -/
def sort (long : Sorting Value) (value : Value) (_ : Option Value) : Except Fault Value :=
  match value with
  | .sequence items =>
      match long.shortByInsertion rank items with
      | some sorted => .ok (.sequence sorted)
      | none => .error .unordered
  | other => .ok other

/-- Adds an item to a list unless an equal one is there. -/
def addNew (kept : List Value) (item : Value) : List Value :=
  if kept.any (·.equals item) then kept else kept ++ [item]

/-- The items without those that are equal to an earlier one. -/
def uniq (value : Value) (_ : Option Value) : Value :=
  match value with
  | .sequence items => .sequence (items.foldl addNew [])
  | other => other

end Filter

end Stencil
