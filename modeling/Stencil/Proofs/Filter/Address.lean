import Stencil.Filter.Text
import Stencil.Value.JsonReader

/-!
# Texts in addresses

Encoding works on the bytes of a text, and a byte is either written as the
character it stands for or as an escape.  The percent sign is always escaped, so
an escape is never taken for characters of the text, and decoding gives back the
bytes.
-/

namespace Stencil

namespace Filter

/--
The bytes for which the characters of an address stand.  A percent sign and two
hexadecimal digits stand for one byte, any other character for its own bytes.
-/
def percentDecode : List Char → List UInt8
  | '%' :: high :: low :: chars =>
      match Json.hexValue? high, Json.hexValue? low with
      | some high, some low => UInt8.ofNat (high * 16 + low) :: percentDecode chars
      | _, _ => String.utf8EncodeChar '%' ++ percentDecode (high :: low :: chars)
  | char :: chars => String.utf8EncodeChar char ++ percentDecode chars
  | [] => []

/-- A hexadecimal digit, its letters in upper case. -/
def IsUpperHexDigit (char : Char) : Prop :=
  char ∈ ['0', '1', '2', '3', '4', '5', '6', '7', '8', '9', 'A', 'B', 'C', 'D', 'E', 'F']

/-- What stands for a byte in an address: a letter, a digit, one of four signs, or an escape. -/
inductive IsAddressPart : List Char → Prop
  | plain {char : Char} (unreserved : char.isAlphanum ∨ char ∈ ['-', '_', '.', '~']) :
      IsAddressPart [char]
  | escape {high low : Char} (isHigh : IsUpperHexDigit high) (isLow : IsUpperHexDigit low) :
      IsAddressPart ['%', high, low]

/-! ## Single bytes -/

/-- The digit of a number below sixteen is a digit and has this value. -/
theorem upperDigit_spec : ∀ number < 16,
    IsUpperHexDigit (Nat.digitChar number).toUpper ∧
      Json.hexValue? (Nat.digitChar number).toUpper = some number := by
  unfold IsUpperHexDigit
  decide

/-- A byte that stands for itself is the whole of a character, which is no percent sign. -/
theorem utf8EncodeChar_of_isUnreserved {byte : UInt8} (unreserved : isUnreserved byte) :
    String.utf8EncodeChar (Char.ofUInt8 byte) = [byte] ∧ Char.ofUInt8 byte ≠ '%' := by
  have all : ∀ number < 256, isUnreserved (UInt8.ofNat number) →
      String.utf8EncodeChar (Char.ofUInt8 (UInt8.ofNat number)) = [UInt8.ofNat number] ∧
        Char.ofUInt8 (UInt8.ofNat number) ≠ '%' := by
    decide +kernel
  have ofByte := all byte.toNat byte.toNat_lt
  rw [UInt8.ofNat_toNat] at ofByte
  exact ofByte unreserved

theorem isAddressPart_encodeByte (byte : UInt8) : IsAddressPart (encodeByte byte) := by
  by_cases unreserved : isUnreserved byte
  · rw [encodeByte, if_pos unreserved]
    apply IsAddressPart.plain
    simpa [isUnreserved, or_assoc] using unreserved
  · have small := byte.toNat_lt
    rw [encodeByte, if_neg unreserved]
    exact .escape (upperDigit_spec _ (by omega)).1 (upperDigit_spec _ (by omega)).1

theorem percentDecode_cons {char : Char} {chars : List Char} (plain : char ≠ '%') :
    percentDecode (char :: chars) = String.utf8EncodeChar char ++ percentDecode chars := by
  rw [percentDecode]
  intro high low rest isPercent
  exact absurd isPercent plain

/-- What stands for a byte is read as this byte, whatever follows it. -/
theorem percentDecode_encodeByte (byte : UInt8) (chars : List Char) :
    percentDecode (encodeByte byte ++ chars) = byte :: percentDecode chars := by
  by_cases unreserved : isUnreserved byte
  · obtain ⟨single, plain⟩ := utf8EncodeChar_of_isUnreserved unreserved
    rw [encodeByte, if_pos unreserved, List.singleton_append, percentDecode_cons plain, single]
    rfl
  · have small := byte.toNat_lt
    have isHigh := (upperDigit_spec (byte.toNat / 16) (by omega)).2
    have isLow := (upperDigit_spec (byte.toNat % 16) (by omega)).2
    have value : byte.toNat / 16 * 16 + byte.toNat % 16 = byte.toNat := by omega
    rw [encodeByte, if_neg unreserved, percentByte, List.cons_append, List.cons_append,
      List.cons_append, List.nil_append, percentDecode, isHigh, isLow]
    simp only [value, UInt8.ofNat_toNat]

/-! ## Texts -/

/-- The bytes that are encoded are those of the rendered text. -/
theorem toByteArray_text (value : Value) :
    (value.text.flatMap String.utf8EncodeChar).toByteArray = value.render.toUTF8 :=
  calc
    _ = (String.ofList value.text).toByteArray := String.toByteArray_ofList.symm
    _ = value.render.toByteArray := by rw [Value.text, String.ofList_toList]

theorem percentDecode_flatMap (bytes : List UInt8) :
    percentDecode (bytes.flatMap encodeByte) = bytes := by
  induction bytes with
  | nil => rfl
  | cons byte bytes ih => rw [List.flatMap_cons, percentDecode_encodeByte, ih]

/--
Encoding the text of a value for an address.  There is one part for each byte of
the text, either a character that addresses allow or an escape.  Decoding gives
back the bytes, so two values are encoded alike just when their texts are the same.
-/
theorem urlEncode_reversible (value : Value) (argument : Option Value) :
    ∃ parts : List (List Char), urlEncode value argument = .ofText parts.flatten ∧
      (∀ part ∈ parts, IsAddressPart part) ∧ parts.length = value.render.utf8ByteSize ∧
      (percentDecode parts.flatten).toByteArray = value.render.toUTF8 ∧
      ∀ other again, urlEncode other again = urlEncode value argument ↔
        other.render = value.render := by
  refine ⟨(value.text.flatMap String.utf8EncodeChar).map encodeByte, ?_, ?_, ?_, ?_, ?_⟩
  · rw [← List.flatMap_def]
    rfl
  · exact List.forall_mem_map.2 fun byte _ => isAddressPart_encodeByte byte
  · rw [List.length_map, ← List.size_toByteArray, toByteArray_text]
    rfl
  · rw [← List.flatMap_def, percentDecode_flatMap, toByteArray_text]
  · intro other again
    constructor
    · intro same
      have encoded := Value.ofText_inj.1 same
      have decoded := congrArg percentDecode encoded
      rw [percentDecode_flatMap, percentDecode_flatMap] at decoded
      apply String.toByteArray_inj.1
      calc
        other.render.toUTF8 = (other.text.flatMap String.utf8EncodeChar).toByteArray :=
          (toByteArray_text other).symm
        _ = (value.text.flatMap String.utf8EncodeChar).toByteArray := by rw [decoded]
        _ = value.render.toUTF8 := toByteArray_text value
    · intro same
      rw [urlEncode, urlEncode, Value.text, Value.text, same]

end Filter

end Stencil
