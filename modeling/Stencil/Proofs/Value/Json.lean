import Stencil.Proofs.Number.Decimal
import Stencil.Proofs.Value.Conversion

/-!
# JSON texts of values whose numbers are integers

The JSON form of a value is compact JSON, as a grammar says what that is: the
same whatever characters its strings and names hold.  It does not tell an object
from the string of the text of the object.
-/

namespace Stencil

/-! ## Compact JSON -/

namespace Json

def isHex (char : Char) : Bool :=
  char.isDigit || ('a' ≤ char && char ≤ 'f') || ('A' ≤ char && char ≤ 'F')

/-- What stands between the quotes of a JSON string: single characters and escapes. -/
inductive IsUnit : List Char → Prop
  | plain {char : Char} (visible : 32 ≤ char.toNat) (noQuote : char ≠ '"')
      (noBackslash : char ≠ '\\') : IsUnit [char]
  | short {letter : Char} (known : letter ∈ ['"', '\\', '/', 'b', 'f', 'n', 'r', 't']) :
      IsUnit ['\\', letter]
  | numeric {first second third fourth : Char}
      (hex : isHex first ∧ isHex second ∧ isHex third ∧ isHex fourth) :
      IsUnit ['\\', 'u', first, second, third, fourth]

def IsString (text : List Char) : Prop :=
  ∃ units : List (List Char), (∀ unit ∈ units, IsUnit unit) ∧ text = '"' :: units.flatten ++ ['"']

/-- Digits without a needless zero in front. -/
structure IsWhole (text : List Char) : Prop where
  nonempty : text ≠ []
  digits : ∀ digit ∈ text, digit.isDigit = true
  noZero : text.head? = some '0' → text = ['0']

inductive IsInteger : List Char → Prop
  | natural {digits : List Char} (whole : IsWhole digits) : IsInteger digits
  | negative {digits : List Char} (whole : IsWhole digits) : IsInteger ('-' :: digits)

/-- JSON texts without blanks whose numbers are integers. -/
inductive IsCompact : List Char → Prop
  | null : IsCompact ['n', 'u', 'l', 'l']
  | true : IsCompact ['t', 'r', 'u', 'e']
  | false : IsCompact ['f', 'a', 'l', 's', 'e']
  | number {text : List Char} (integer : IsInteger text) : IsCompact text
  | string {text : List Char} (quoted : IsString text) : IsCompact text
  | array {items : List (List Char)} (compact : ∀ item ∈ items, IsCompact item) :
      IsCompact (enclose '[' ']' items)
  | object {members : List (List Char × List Char)} (names : ∀ member ∈ members, IsString member.1)
      (compact : ∀ member ∈ members, IsCompact member.2) :
      IsCompact (enclose '{' '}' (members.map fun member => member.1 ++ ':' :: member.2))

/-! ## Strings and numbers -/

theorem isHex_hexDigit {digit : Nat} (bound : digit < 16) : isHex (hexDigit digit) = true := by
  have all : ∀ digit < 16, isHex (hexDigit digit) = true := by decide
  exact all digit bound

theorem isUnit_escape (char : Char) : IsUnit (escape char) := by
  unfold escape
  split_ifs with quote backslash _ _ _ _ _ control
  · exact .short (by decide)
  · exact .short (by decide)
  · exact .short (by decide)
  · exact .short (by decide)
  · exact .short (by decide)
  · exact .short (by decide)
  · exact .short (by decide)
  · exact .numeric ⟨by decide, by decide, isHex_hexDigit (by omega), isHex_hexDigit (by omega)⟩
  · exact .plain (Nat.not_lt.1 control) quote backslash

theorem isString_quote (text : List Char) : IsString (quote text) := by
  refine ⟨text.map escape, fun unit member => ?_, by rw [← List.flatMap_def]; rfl⟩
  obtain ⟨char, -, rfl⟩ := List.mem_map.1 member
  exact isUnit_escape char

/-- Only zero is written with a zero in front. -/
theorem isWhole_toDigits (number : Nat) : IsWhole (Nat.toDigits 10 number) where
  nonempty := Nat.toDigits_ne_nil
  digits _ member := Decimal.isDigit_of_mem_toDigits member
  noZero := by
    induction number using Nat.strongRecOn with
    | ind number ih =>
        intro zero
        by_cases single : number < 10
        · have all : ∀ number < 10, (Nat.toDigits 10 number).head? = some '0' →
              Nat.toDigits 10 number = ['0'] := by decide
          exact all number single zero
        · -- The digits in front of the last one are those of a smaller number.
          rw [Nat.toDigits_of_base_le (by decide) (Nat.not_lt.1 single),
            List.head?_append_of_ne_nil _ Nat.toDigits_ne_nil] at zero
          have front := ih (number / 10) (by omega) zero
          have value := congrArg Decimal.ofDigits front
          rw [Decimal.ofDigits_toDigits] at value
          have vanishes : number / 10 = 0 := value
          omega

theorem isInteger_writeInteger (value : Int) : IsInteger (Decimal.writeInteger value) := by
  unfold Decimal.writeInteger
  split
  · exact .negative (isWhole_toDigits _)
  · exact .natural (isWhole_toDigits _)

end Json

/-! ## Values -/

namespace Number

/-- The number is not a double. -/
def IsInteger : Number → Prop
  | .integer _ _ => True
  | .float _ => False

end Number

namespace Value

mutual

/-- The JSON form of a value is compact JSON. -/
theorem isCompact_json : ∀ value : Value, (∀ numeral ∈ value.numbers, numeral.IsInteger) →
    Json.IsCompact value.json
  | .nil, _ => .null
  | .bool true, _ => .true
  | .bool false, _ => .false
  | .number (.integer value _), _ => .number (Json.isInteger_writeInteger value)
  | .number (.float value), integral => (integral _ (List.mem_singleton_self _)).elim
  | .string text, _ => .string (Json.isString_quote _)
  | .sequence items, integral => .array (isCompact_jsonItems items integral)
  | .mapping entries, integral => by
      obtain ⟨members, same, names, values⟩ := isCompact_jsonEntries entries integral
      rw [json, same]
      exact .object names values
  | .object host, _ => .string (Json.isString_quote _)

theorem isCompact_jsonItems : ∀ items : List Value,
    (∀ numeral ∈ numbersOfItems items, numeral.IsInteger) →
      ∀ text ∈ jsonItems items, Json.IsCompact text
  | [], _ => nofun
  | item :: items, integral => by
      rw [numbersOfItems, List.forall_mem_append] at integral
      exact List.forall_mem_cons.2
        ⟨isCompact_json item integral.1, isCompact_jsonItems items integral.2⟩

theorem isCompact_jsonEntries : ∀ entries : List (String × Value),
    (∀ numeral ∈ numbersOfEntries entries, numeral.IsInteger) →
      ∃ members : List (List Char × List Char),
        (jsonEntries entries = members.map fun member => member.1 ++ ':' :: member.2) ∧
        (∀ member ∈ members, Json.IsString member.1) ∧
        ∀ member ∈ members, Json.IsCompact member.2
  | [], _ => ⟨[], rfl, nofun, nofun⟩
  | (name, value) :: entries, integral => by
      rw [numbersOfEntries, List.forall_mem_append] at integral
      obtain ⟨members, same, names, values⟩ := isCompact_jsonEntries entries integral.2
      refine ⟨(Json.quote name.toList, value.json) :: members, ?_, ?_, ?_⟩
      · rw [jsonEntries, same, List.map_cons]
      · exact List.forall_mem_cons.2 ⟨Json.isString_quote _, names⟩
      · exact List.forall_mem_cons.2 ⟨isCompact_json value integral.1, values⟩

end

mutual

/-- An object is written as the string of its text. -/
theorem json_detach : ∀ value : Value, value.detach.json = value.json
  | .nil | .bool _ | .number _ | .string _ | .object _ => rfl
  | .sequence items => by rw [detach, json, json, jsonItems_detachItems items]
  | .mapping entries => by rw [detach, json, json, jsonEntries_detachEntries entries]

theorem jsonItems_detachItems : ∀ items : List Value,
    jsonItems (detachItems items) = jsonItems items
  | [] => rfl
  | item :: items => by
      rw [detachItems, jsonItems, jsonItems, json_detach item, jsonItems_detachItems items]

theorem jsonEntries_detachEntries : ∀ entries : List (String × Value),
    jsonEntries (detachEntries entries) = jsonEntries entries
  | [] => rfl
  | (name, value) :: entries => by
      rw [detachEntries, jsonEntries, jsonEntries, json_detach value,
        jsonEntries_detachEntries entries]

end

end Value

end Stencil
