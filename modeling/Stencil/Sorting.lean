/-!
# Sorting

Lists are sorted by a comparison of their items.  Up to a length they are sorted
by insertion, which gives a list whatever the comparison is; how longer lists are
sorted is left open.
-/

namespace Stencil

/-- A way to sort lists by a comparison.  It may fail where the comparison is no order. -/
abbrev Sorting (α : Type) :=
  (α → α → Ordering) → List α → Option (List α)

namespace Sorting

variable {α : Type}

/--
Puts an item into a sorted list that is kept in reverse: behind the last item
that it is not less than.
-/
def insertReversed (comparison : α → α → Ordering) (item : α) : List α → List α
  | [] => [item]
  | greatest :: smaller =>
      if comparison item greatest = .lt then
        greatest :: insertReversed comparison item smaller
      else
        item :: greatest :: smaller

/-- Sorts a list by putting in its items one after the other. -/
def insertion (comparison : α → α → Ordering) (items : List α) : List α :=
  (items.foldl (fun sorted item => insertReversed comparison item sorted) []).reverse

/-- The length up to which lists are sorted by insertion. -/
def insertionLimit : Nat :=
  20

/-- Sorts short lists by insertion and the others in another way. -/
def shortByInsertion (long : Sorting α) : Sorting α := fun comparison items =>
  if items.length ≤ insertionLimit then some (insertion comparison items)
  else long comparison items

/-- Sorts by insertion, and fails where this leaves an item in front of a lesser one. -/
def checkedInsertion : Sorting α := fun comparison items =>
  let sorted := insertion comparison items
  if sorted.Pairwise fun first second => comparison first second ≠ .gt then some sorted else none

end Sorting

end Stencil
