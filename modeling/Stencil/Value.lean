import Stencil.Entries
import Stencil.Number

/-!
# Values

The data a template works on.  Besides plain data there are host objects, which
answer for members by name and may have a text of their own.  An object is
identified by its handle: two occurrences of a handle are the same object.
-/

namespace Stencil

/-- An object of the program that renders a template; `α` is the type of its members. -/
structure HostObject (α : Type) where
  /-- Tells objects apart. -/
  handle : Nat
  /-- A field by name. -/
  field : String → Option α
  /-- The result of a method without arguments, by name. -/
  method : String → Option α
  /-- The text that stands for the object, if it has one. -/
  display : Option String
  /-- The text shown when there is no other. -/
  diagnostic : String

namespace HostObject

/-- A member of an object: a field, or else a method. -/
def member {α : Type} (host : HostObject α) (name : String) : Option α :=
  (host.field name).or (host.method name)

def text {α : Type} (host : HostObject α) : String :=
  host.display.getD host.diagnostic

end HostObject

/-- A value in the data of a template or computed while rendering it. -/
inductive Value
  | nil
  | bool (value : Bool)
  | number (value : Number)
  | string (text : String)
  | sequence (items : List Value)
  | mapping (entries : List (String × Value))
  | object (host : HostObject Value)

namespace Value

instance : Inhabited Value :=
  ⟨.nil⟩

/-- An integer as a value; nil if it does not fit in 64 bits. -/
def ofInt (value : Int) : Value :=
  match Number.ofInt? value with
  | some numeral => .number numeral
  | none => .nil

theorem ofInt_eq {value : Int}
    (inRange : -9223372036854775808 ≤ value ∧ value < 18446744073709551616) :
    ofInt value = .number (.integer value inRange) := by
  rw [ofInt, Number.ofInt?, dif_pos inRange]

/-- A double as a value; nil if it is not finite. -/
def ofDouble (value : Double) : Value :=
  match Number.ofDouble? value with
  | some numeral => .number numeral
  | none => .nil

def ofText (text : List Char) : Value :=
  .string (String.ofList text)

def isNil : Value → Bool
  | .nil => true
  | _ => false

/-- Nil and `false` are the only values that do not count as true. -/
def isTruthy : Value → Bool
  | .nil => false
  | .bool value => value
  | _ => true

def string? : Value → Option String
  | .string text => some text
  | _ => none

/-- The integer of a number that fits in signed 64 bits. -/
def signed? : Value → Option Int
  | .number numeral => numeral.signed?
  | _ => none

def double? : Value → Option Double
  | .number numeral => some numeral.toDouble
  | _ => none

def items? : Value → Option (List Value)
  | .sequence items => some items
  | _ => none

def entries? : Value → Option (Entries Value)
  | .mapping entries => some entries
  | _ => none

/-- Number of characters of a string, of items of a sequence, of entries of a mapping. -/
def size? : Value → Option Nat
  | .string text => some text.toList.length
  | .sequence items => some items.length
  | .mapping entries => some entries.length
  | _ => none

def kind : Value → String
  | .nil => "nil"
  | .bool _ => "bool"
  | .number _ => "number"
  | .string _ => "string"
  | .sequence _ => "sequence"
  | .mapping _ => "mapping"
  | .object _ => "object"

end Value

end Stencil
