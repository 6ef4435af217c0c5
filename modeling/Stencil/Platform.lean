import Stencil.Calendar
import Stencil.Sorting
import Stencil.Text.Cluster
import Stencil.Value

/-!
# Platforms

The built-in filters leave some of their work to the platform: to sort long
lists, to cut texts into clusters, and to read and write moments.
-/

namespace Stencil

structure Platform where
  /-- Sorts lists that are too long to be sorted by insertion. -/
  sortLong : Sorting Value
  /-- The clusters of a text, the characters as a reader perceives them. -/
  clusters : List Char → List (List Char)
  calendar : Calendar

/-- The platform that is made of the definitions of this library. -/
def Platform.reference : Platform where
  sortLong := Sorting.checkedInsertion
  clusters := Text.clusters
  calendar := .gregorian

end Stencil
