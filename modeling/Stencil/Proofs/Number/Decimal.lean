import Stencil.Number.Decimal

/-!
# Integers in decimal notation

An integer that is written is read back.
-/

namespace Stencil

namespace Decimal

theorem ofDigits_toDigits (number : Nat) : ofDigits (Nat.toDigits 10 number) = number := by
  have core := @Nat.ofDigitChars_ten_toDigits number
  rwa [Nat.ofDigitChars_eq_foldl] at core

theorem isDigit_of_mem_toDigits {number : Nat} {char : Char}
    (member : char ∈ Nat.toDigits 10 number) : char.isDigit = true :=
  Nat.isDigit_of_mem_toDigits (by decide) (by decide) member

theorem readDigits?_toDigits (number : Nat) :
    readDigits? (Nat.toDigits 10 number) = some number := by
  have digits : (Nat.toDigits 10 number).all Char.isDigit :=
    List.all_eq_true.2 fun char member => isDigit_of_mem_toDigits member
  have nonempty : (Nat.toDigits 10 number).isEmpty = false := by
    simp [Nat.toDigits_ne_nil]
  rw [readDigits?, digits, nonempty, ofDigits_toDigits]
  rfl

theorem splitSign_of_digit {char : Char} (digit : char.isDigit = true) (chars : List Char) :
    splitSign (char :: chars) = (false, char :: chars) := by
  unfold splitSign
  split
  · next same =>
      cases same
      exact absurd digit (by decide)
  · next same =>
      cases same
      exact absurd digit (by decide)
  · rfl

theorem readInteger?_writeInteger (value : Int) :
    readInteger? (writeInteger value) = some value := by
  by_cases negative : value < 0
  · have magnitude : -(value.natAbs : Int) = value := by omega
    simp only [writeInteger, if_pos negative, readInteger?, splitSign, readDigits?_toDigits,
      Option.map_some, signed, if_true, magnitude]
  · have magnitude : (value.natAbs : Int) = value := by omega
    obtain ⟨char, chars, digits⟩ :=
      List.exists_cons_of_ne_nil (@Nat.toDigits_ne_nil value.natAbs 10)
    have member : char ∈ Nat.toDigits 10 value.natAbs := by simp [digits]
    rw [writeInteger, if_neg negative, readInteger?, digits,
      splitSign_of_digit (isDigit_of_mem_toDigits member), ← digits]
    simp only [readDigits?_toDigits, Option.map_some, signed, Bool.false_eq_true, if_false,
      magnitude]

end Decimal

end Stencil
