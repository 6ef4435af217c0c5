import Stencil.Filter.Arithmetic
import Stencil.Filter.Date
import Stencil.Filter.General
import Stencil.Filter.Sequence
import Stencil.Filter.Text
import Stencil.Platform

/-!
# Standard configurations

The filters that every template may use unless its configuration begins empty.
-/

namespace Stencil

namespace Filter

/-- A filter that needs no clock and always has a result. -/
def ofFunction (function : Value → Option Value → Value) : Filter :=
  fun _ value argument => .ok (function value argument)

/-- The built-in filters, on the reference platform unless it is another one. -/
def builtin (platform : Platform := .reference) : List (String × Filter) :=
  [("capitalize", ofFunction capitalize), ("upcase", ofFunction upcase),
    ("downcase", ofFunction downcase), ("append", ofFunction append),
    ("prepend", ofFunction prepend), ("remove", ofFunction remove),
    ("remove_first", ofFunction removeFirst), ("split", ofFunction split),
    ("strip", ofFunction strip), ("lstrip", ofFunction lstrip),
    ("rstrip", ofFunction rstrip), ("truncate", ofFunction (truncate platform.clusters)),
    ("strip_html", ofFunction stripHtml), ("newline_to_br", ofFunction newlineToBr),
    ("url_encode", ofFunction urlEncode), ("first", ofFunction first),
    ("last", ofFunction last), ("join", ofFunction join), ("reverse", ofFunction reverse),
    ("sort", fun _ => sort platform.sortLong), ("uniq", ofFunction uniq), ("plus", ofFunction plus),
    ("minus", ofFunction minus), ("times", ofFunction times),
    ("divided_by", ofFunction dividedBy), ("modulo", ofFunction modulo),
    ("size", ofFunction size), ("default", ofFunction default),
    ("date", date platform.calendar)]

end Filter

/-- Filters that later configurations begin with, registered for a whole program. -/
structure Registry where
  filters : Entries Filter

namespace Registry

def empty : Registry :=
  ⟨[]⟩

/-- The registry with a filter registered, in place of one of the same name. -/
def register (registry : Registry) (name : String) (filter : Filter) : Registry :=
  ⟨registry.filters.insert name filter⟩

/-- The configuration with the built-in filters and, over them, the registered ones. -/
def standard (registry : Registry) (platform : Platform := .reference) : Config :=
  { Config.empty with
    filters := (Entries.ofList (Filter.builtin platform)).merge registry.filters }

end Registry

end Stencil
