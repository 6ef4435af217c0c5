import Stencil.Calendar.Moment
import Stencil.Context
import Stencil.Text.Blank

/-!
# Scopes

What a template sees while it is rendered: the data, the variables that the
template itself has set, which hide the data, and the time.
-/

namespace Stencil

namespace Value

/--
A member of a value.  Missing members of plain data are nil; only an object can
lack a member altogether.
-/
def member? : Value → String → Option Value
  | .mapping entries, name => some ((Entries.get? entries name).getD .nil)
  | .sequence items, name =>
      some <|
        if name = "size" then .ofInt items.length
        else if name = "first" then items.head?.getD .nil
        else if name = "last" then items.getLast?.getD .nil
        else ((Decimal.readNatural? name.toList).bind (items[·]?)).getD .nil
  | .string text, name => some (if name = "size" then .ofInt text.toList.length else .nil)
  | .object host, name => host.member name
  | _, _ => some .nil

/-- The value at the end of a chain of members. -/
def follow? : Value → List String → Option Value
  | value, [] => some value
  | value, name :: names =>
      match value.member? name with
      | none => none
      | some next => next.follow? names

end Value

/-- What a template sees while it is rendered. -/
structure Scope where
  data : Context
  locals : Entries Value
  now : Moment

namespace Scope

/-- The scope in which rendering begins. -/
def start (data : Context) (now : Moment) : Scope :=
  ⟨data, [], now⟩

def get? (scope : Scope) (name : String) : Option Value :=
  (scope.locals.get? name).or (scope.data.get? name)

def set (scope : Scope) (name : String) (value : Value) : Scope :=
  { scope with locals := scope.locals.insert name value }

theorem get?_set (scope : Scope) (name asked : String) (value : Value) :
    (scope.set name value).get? asked =
      if asked = name then some value else scope.get? asked := by
  rw [get?, get?, set, Entries.get?_insert]
  split <;> rfl

/--
The value of a path.  A missing variable is nil; a path is without value only
where an object lacks a member.
-/
def lookup? (scope : Scope) : List String → Option Value
  | [] => some .nil
  | root :: members => ((scope.get? root).getD .nil).follow? members

/-- A variable that has been set leads on from its value. -/
theorem lookup?_set (scope : Scope) (name : String) (value : Value) (names : List String) :
    (scope.set name value).lookup? (name :: names) = value.follow? names := by
  rw [lookup?, get?_set, if_pos rfl, Option.getD_some]

/-- The value of a path that is written with points; nil where it has none. -/
def resolve (scope : Scope) (path : String) : Value :=
  let parts := Text.splitPath path.toList
  (scope.lookup? (parts.map fun part => String.ofList (Text.trim part))).getD .nil

end Scope

end Stencil
