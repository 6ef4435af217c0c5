import Stencil.Reason
import Stencil.Value.Text

/-!
# Host data

The data a program hands over to a template, and its conversion to values.
Integers may be wider than 64 bits and keys of mappings may be any data, so a
conversion can fail; it fails with the text of the reason.
-/

namespace Stencil

/-- Data of the program that renders a template. -/
inductive Datum
  /-- Nothing at all: an absent option, a unit. -/
  | nothing
  | bool (value : Bool)
  | integer (value : Int)
  | double (value : Double)
  | single (value : Double)
  | char (value : Char)
  | text (value : String)
  | bytes (value : List UInt8)
  | list (items : List Datum)
  | mapping (pairs : List (Datum × Datum))
  /-- A case of an enumeration, by its name. -/
  | caseName (name : String)
  /-- A case of an enumeration that carries data. -/
  | caseOf (name : String) (content : Datum)
  /-- Data that refuses to be converted, for a reason of its own. -/
  | refusal (reason : String)

namespace Datum

instance : Inhabited Datum :=
  ⟨.nothing⟩

/-- The reason given for a key that has no text. -/
def keyMustBeString : String :=
  "key must be a string"

/-- The text of a double as a key. -/
def doubleKey (layout : DecimalLayout) : Double → Except String String
  | .finite number => .ok (String.ofList (layout.write number))
  | _ => .error "float key must be finite (got NaN or +/-inf)"

/-- The text of a key: strings, characters, numbers, truth values and case names have one. -/
def key : Datum → Except String String
  | .bool true => .ok "true"
  | .bool false => .ok "false"
  | .integer value => .ok (String.ofList (Decimal.writeInteger value))
  | .double value => doubleKey .json value
  | .single value => doubleKey .jsonSingle value
  | .char value => .ok (String.ofList [value])
  | .text value => .ok value
  | .caseName name => .ok name
  | .refusal reason => .error (Reason.report reason)
  | .nothing | .bytes _ | .list _ | .mapping _ | .caseOf _ _ => .error keyMustBeString

mutual

/-- The value of host data, or the reason why it has none. -/
def toValue : Datum → Except String Value
  | .nothing => .ok .nil
  | .bool value => .ok (.bool value)
  | .integer value =>
      match Number.ofInt? value with
      | some numeral => .ok (.number numeral)
      | none => .error "number out of range"
  | .double value => .ok (.ofDouble value)
  | .single value => .ok (.ofDouble value)
  | .char value => .ok (.ofText [value])
  | .text value => .ok (.string value)
  | .bytes value => .ok (.sequence (value.map fun byte => .ofInt byte.toNat))
  | .list items => (itemValues items).map .sequence
  | .mapping pairs => (entryValues pairs []).map .mapping
  | .caseName name => .ok (.string name)
  | .caseOf name content => (toValue content).map fun value => .mapping [(name, value)]
  | .refusal reason => .error (Reason.report reason)

/-- The values of a list of data, up to the first that has none. -/
def itemValues : List Datum → Except String (List Value)
  | [] => .ok []
  | item :: items =>
      match toValue item with
      | .ok value => (itemValues items).map (value :: ·)
      | .error reason => .error reason

/-- Adds pairs of keys and data to a mapping, from the left, up to the first that fails. -/
def entryValues : List (Datum × Datum) → Entries Value → Except String (Entries Value)
  | [], entries => .ok entries
  | (name, content) :: pairs, entries =>
      match key name with
      | .error reason => .error reason
      | .ok name =>
          match toValue content with
          | .error reason => .error reason
          | .ok value => entryValues pairs (entries.insert name value)

end

end Datum

namespace Number

def toDatum : Number → Datum
  | .integer value _ => .integer value
  | .float value => .double (.finite value)

end Number

namespace Value

mutual

/-- A value as host data.  An object is handed over as its text. -/
def toDatum : Value → Datum
  | .nil => .nothing
  | .bool value => .bool value
  | .number numeral => numeral.toDatum
  | .string text => .text text
  | .sequence items => .list (itemData items)
  | .mapping entries => .mapping (entryData entries)
  | .object host => .text host.text

def itemData : List Value → List Datum
  | [] => []
  | item :: items => toDatum item :: itemData items

def entryData : List (String × Value) → List (Datum × Datum)
  | [] => []
  | (name, value) :: entries => (.text name, toDatum value) :: entryData entries

end

end Value

end Stencil
