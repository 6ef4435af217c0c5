import Stencil.Error
import Stencil.Value.Compare
import Stencil.Value.Datum

/-!
# Contexts

The data a template is rendered against: named values.
-/

namespace Stencil

namespace Value

/-- The value of host data, or the error that reports why it has none. -/
def ofDatum (datum : Datum) : Except Error Value :=
  datum.toValue.mapError .conversion

end Value

structure Context where
  entries : Entries Value

namespace Context

def empty : Context :=
  ⟨[]⟩

def get? (context : Context) (name : String) : Option Value :=
  context.entries.get? name

def has (context : Context) (name : String) : Bool :=
  context.entries.has name

def set (context : Context) (name : String) (value : Value) : Context :=
  ⟨context.entries.insert name value⟩

/-- The context with host data for a name: nil if the data cannot be converted. -/
def insert (context : Context) (name : String) (datum : Datum) : Context :=
  match Value.ofDatum datum with
  | .ok value => context.set name value
  | .error _ => context.set name .nil

/-- The context with host data for a name, or the error of its conversion. -/
def tryInsert (context : Context) (name : String) (datum : Datum) : Except Error Context :=
  (Value.ofDatum datum).map (context.set name)

def setObject (context : Context) (name : String) (host : HostObject Value) : Context :=
  context.set name (.object host)

def erase (context : Context) (name : String) : Context :=
  ⟨context.entries.erase name⟩

/-- The context with all values of another one, which win over its own. -/
def extend (context source : Context) : Context :=
  ⟨context.entries.merge source.entries⟩

/-- The context of the entries of a mapping; other values have none. -/
def ofValue : Value → Except Error Context
  | .mapping entries => .ok ⟨entries⟩
  | _ =>
      .error (.custom
        "Creating a Context from a Value/Serialize requires it being a JSON object")

/-- The context of host data that converts to a mapping. -/
def ofDatum (datum : Datum) : Except Error Context :=
  (Value.ofDatum datum).bind ofValue

/-- The mapping of all values. -/
def toValue (context : Context) : Value :=
  .mapping context.entries

/-- Whether two contexts have equal values for the same names. -/
def equals (first second : Context) : Bool :=
  first.toValue.equals second.toValue

@[simp]
theorem get?_empty (name : String) : empty.get? name = none :=
  rfl

theorem get?_set (context : Context) (name asked : String) (value : Value) :
    (context.set name value).get? asked =
      if asked = name then some value else context.get? asked :=
  Entries.get?_insert name asked value context.entries

theorem get?_erase (context : Context) (name asked : String) :
    (context.erase name).get? asked =
      if asked = name then none else context.get? asked :=
  Entries.get?_erase name asked context.entries

end Context

end Stencil
