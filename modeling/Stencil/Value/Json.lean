import Stencil.Value

/-!
# JSON texts of values

The compact JSON form: no blanks, entries in the order of their names, and only
quotes, backslashes and controls escaped.  An object is written as the string
of its text.
-/

namespace Stencil

namespace Json

/-- A digit of the hexadecimal system, in lower case. -/
def hexDigit (digit : Nat) : Char :=
  Nat.digitChar digit

def escape (char : Char) : List Char :=
  if char = '"' then ['\\', '"']
  else if char = '\\' then ['\\', '\\']
  else if char = '\n' then ['\\', 'n']
  else if char = '\r' then ['\\', 'r']
  else if char = '\t' then ['\\', 't']
  else if char.toNat = 8 then ['\\', 'b']
  else if char.toNat = 12 then ['\\', 'f']
  else if char.toNat < 32 then
    ['\\', 'u', '0', '0', hexDigit (char.toNat / 16), hexDigit (char.toNat % 16)]
  else [char]

def quote (text : List Char) : List Char :=
  '"' :: text.flatMap escape ++ ['"']

/-- Parts of a container, separated by commas, between its brackets. -/
def enclose (left right : Char) (parts : List (List Char)) : List Char :=
  left :: List.intercalate [','] parts ++ [right]

end Json

namespace Value

mutual

def json : Value → List Char
  | .nil => ['n', 'u', 'l', 'l']
  | .bool true => ['t', 'r', 'u', 'e']
  | .bool false => ['f', 'a', 'l', 's', 'e']
  | .number numeral => numeral.write .json
  | .string text => Json.quote text.toList
  | .sequence items => Json.enclose '[' ']' (jsonItems items)
  | .mapping entries => Json.enclose '{' '}' (jsonEntries entries)
  | .object host => Json.quote host.text.toList

def jsonItems : List Value → List (List Char)
  | [] => []
  | item :: items => json item :: jsonItems items

/-- The JSON texts of the entries of a mapping. -/
def jsonEntries : List (String × Value) → List (List Char)
  | [] => []
  | (name, value) :: entries =>
      (Json.quote name.toList ++ ':' :: json value) :: jsonEntries entries

end

end Value

end Stencil
