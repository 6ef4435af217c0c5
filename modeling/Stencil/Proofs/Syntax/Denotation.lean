import Stencil.Proofs.Number.Overflow
import Stencil.Proofs.Syntax.Numeral

/-!
# What numerals denote

An integer becomes the literal that it denotes, or is refused if it does not
fit in 64 bits.  A decimal becomes its nearest double, and one that is too large
for a double becomes nil.
-/

namespace Stencil

-- Powers are those of the core library, as in the definitions.
attribute [local instance (high)] instPowNat

open Grammar (IsDecimal IsInteger IsNumeral)

namespace Decimal

theorem splitSign_digits {digits : List Char} (nonempty : digits ≠ [])
    (all : ∀ char ∈ digits, char.isDigit = true) (rest : List Char) :
    splitSign (digits ++ rest) = (false, digits ++ rest) := by
  obtain ⟨char, chars, rfl⟩ := List.exists_cons_of_ne_nil nonempty
  exact splitSign_of_digit (all char List.mem_cons_self) (chars ++ rest)

theorem readDigits?_of_isDigit {digits : List Char} (nonempty : digits ≠ [])
    (all : ∀ char ∈ digits, char.isDigit = true) :
    readDigits? digits = some (ofDigits digits) := by
  rw [readDigits?, List.all_eq_true.2 all, List.isEmpty_eq_false_iff.2 nonempty]
  rfl

theorem readUnsigned?_digits {whole fraction : List Char} (negative : Bool)
    (whole_ne : whole ≠ []) (whole_digits : ∀ char ∈ whole, char.isDigit = true)
    (fraction_digits : ∀ char ∈ fraction, char.isDigit = true) :
    readUnsigned? negative (whole ++ '.' :: fraction) =
      some ⟨negative, ofDigits (whole ++ fraction), -fraction.length⟩ := by
  have point : ('.').isDigit = false := rfl
  have taken : (whole ++ '.' :: fraction).takeWhile Char.isDigit = whole := by
    rw [List.takeWhile_append_of_pos whole_digits, List.takeWhile_cons_of_neg (by simp [point]),
      List.append_nil]
  have dropped : (whole ++ '.' :: fraction).dropWhile Char.isDigit = '.' :: fraction := by
    rw [List.dropWhile_append_of_pos whole_digits, List.dropWhile_cons_of_neg (by simp [point])]
  have split : splitFraction ('.' :: fraction) = (fraction, []) := by
    rw [splitFraction, List.takeWhile_eq_self_iff.2 fraction_digits,
      List.dropWhile_eq_nil_iff.2 fraction_digits]
  simp [readUnsigned?, taken, dropped, split, whole_ne, readExponent?]

end Decimal

theorem toLower_of_isDigit {char : Char} (digit : char.isDigit = true) :
    char.toLower = char := by
  have range := Grammar.toNat_of_isDigit digit
  refine dif_neg fun letter => ?_
  have above : 65 ≤ char.toNat := UInt32.le_iff_toNat_le.1 letter.1
  omega

/-- A text that begins with a digit is none of the words that a double can be read from. -/
theorem lowered_ne_of_isDigit {char first : Char} {rest : List Char} {word : String}
    (digit : char.isDigit = true) (chars : List Char) (spelled : word.toList = first :: rest)
    (noDigit : first.isDigit = false) :
    String.ofList ((char :: chars).map Char.toLower) ≠ word := by
  rintro rfl
  rw [String.toList_ofList, List.map_cons, toLower_of_isDigit digit] at spelled
  cases spelled
  rw [digit] at noDigit
  cases noDigit

namespace Numeral

/-- The integer that a text denotes: digits, maybe behind a minus. -/
def integer : List Char → Int
  | '-' :: digits => -(Decimal.ofDigits digits : Int)
  | digits => Decimal.ofDigits digits

/-- The decimal that a text denotes: digits with a point among them, maybe behind a minus. -/
def decimal (text : List Char) : Decimal where
  negative := text.head? == some '-'
  coefficient := Decimal.ofDigits (text.filter Char.isDigit)
  exponent := -((text.dropWhile (· != '.')).tail.length : Int)

variable {text : List Char}

theorem readInteger?_eq (isInteger : IsInteger text) :
    Decimal.readInteger? text = some (integer text) := by
  cases isInteger with
  | natural nonempty all =>
      have split := Decimal.splitSign_digits nonempty all []
      rw [List.append_nil] at split
      obtain ⟨char, chars, rfl⟩ := List.exists_cons_of_ne_nil nonempty
      have noSign : integer (char :: chars) = Decimal.ofDigits (char :: chars) := by
        unfold integer
        split
        · next same =>
            cases same
            exact absurd (all '-' List.mem_cons_self) (by decide)
        · rfl
      rw [Decimal.readInteger?, split, noSign]
      simp only [Decimal.readDigits?_of_isDigit nonempty all]
      rfl
  | negative nonempty all =>
      simp only [Decimal.readInteger?, Decimal.splitSign,
        Decimal.readDigits?_of_isDigit nonempty all]
      rfl

section

variable {sign whole fraction : List Char} (signed : sign = [] ∨ sign = ['-'])
  (whole_ne : whole ≠ []) (whole_digits : ∀ char ∈ whole, char.isDigit = true)
  (fraction_digits : ∀ char ∈ fraction, char.isDigit = true)

include signed whole_ne whole_digits

theorem splitSign_decimal :
    Decimal.splitSign (sign ++ (whole ++ '.' :: fraction)) =
      (!sign.isEmpty, whole ++ '.' :: fraction) := by
  rcases signed with rfl | rfl
  · exact Decimal.splitSign_digits whole_ne whole_digits _
  · rfl

include fraction_digits

theorem decimal_eq :
    decimal (sign ++ (whole ++ '.' :: fraction)) =
      ⟨!sign.isEmpty, Decimal.ofDigits (whole ++ fraction), -fraction.length⟩ := by
  have digits : (sign ++ (whole ++ '.' :: fraction)).filter Char.isDigit = whole ++ fraction := by
    have noDigits : sign.filter Char.isDigit = [] := by
      rcases signed with rfl | rfl <;> rfl
    have point : ('.').isDigit = false := rfl
    simp [noDigits, point, List.filter_eq_self.2 whole_digits,
      List.filter_eq_self.2 fraction_digits]
  have behind : (sign ++ (whole ++ '.' :: fraction)).dropWhile (· != '.') = '.' :: fraction := by
    have noPoint : ∀ char ∈ sign ++ whole, (char != '.') = true := by
      refine List.forall_mem_append.2 ⟨?_, fun char member => ?_⟩
      · rcases signed with rfl | rfl <;> simp
      · rw [bne_iff_ne]
        rintro rfl
        exact absurd (whole_digits '.' member) (by decide)
    rw [← List.append_assoc, List.dropWhile_append_of_pos noPoint,
      List.dropWhile_cons_of_neg (by simp)]
  have head : ((sign ++ (whole ++ '.' :: fraction)).head? == some '-') = !sign.isEmpty := by
    rcases signed with rfl | rfl
    · obtain ⟨char, chars, rfl⟩ := List.exists_cons_of_ne_nil whole_ne
      have noSign : char ≠ '-' := by
        rintro rfl
        exact absurd (whole_digits '-' List.mem_cons_self) (by decide)
      simpa using noSign
    · rfl
  rw [decimal, digits, behind, head]
  rfl

theorem read?_eq_decimal :
    Double.read? .double (sign ++ (whole ++ '.' :: fraction)) =
      some ((decimal (sign ++ (whole ++ '.' :: fraction))).toDouble .double) := by
  rw [decimal_eq signed whole_ne whole_digits fraction_digits, Double.read?,
    splitSign_decimal signed whole_ne whole_digits]
  obtain ⟨char, chars, rfl⟩ := List.exists_cons_of_ne_nil whole_ne
  have digit := whole_digits char List.mem_cons_self
  have noWord {word : String} {first : Char} {rest : List Char} :=
    @lowered_ne_of_isDigit char first rest word digit (chars ++ '.' :: fraction)
  have noInfinity := not_or.2 ⟨noWord (show "inf".toList = 'i' :: "nf".toList from rfl) rfl,
    noWord (show "infinity".toList = 'i' :: "nfinity".toList from rfl) rfl⟩
  have noNaN := noWord (show "nan".toList = 'n' :: "an".toList from rfl) rfl
  simp only [List.cons_append]
  rw [if_neg noInfinity, if_neg noNaN, ← List.cons_append,
    Decimal.readUnsigned?_digits _ whole_ne whole_digits fraction_digits]
  rfl

end

/-- An integer becomes what it denotes, or is out of bounds. -/
theorem value_int (isInteger : IsInteger text) (position : Nat) :
    value ⟨.int, text, position⟩ =
      if -9223372036854775808 ≤ integer text ∧ integer text < 9223372036854775808 then
        .ok (.ofInt (integer text))
      else
        Checked.fail (.integerOutOfBounds (String.ofList text)) position := by
  rw [value, Expr.ofLiteral, Expr.integerLiteral?, readInteger?_eq isInteger, Option.bind_some]
  split_ifs <;> rfl

/-- A decimal becomes its nearest double. -/
theorem value_float (isDecimal : IsDecimal text) (position : Nat) :
    value ⟨.float, text, position⟩ = .ok (.ofDouble ((decimal text).toDouble .double)) := by
  cases isDecimal with
  | mk signed whole_ne whole_digits _ fraction_digits =>
      rw [value, Expr.ofLiteral, read?_eq_decimal signed whole_ne whole_digits fraction_digits]

theorem exists_value_float (isDecimal : IsDecimal text) (fits : (decimal text).Fits)
    (position : Nat) :
    ∃ double, (decimal text).toDouble .double = .finite double ∧
      value ⟨.float, text, position⟩ = .ok (.number (.float double)) := by
  rw [← Decimal.isSome_finite?_toDouble_iff] at fits
  rw [value_float isDecimal]
  cases nearest : (decimal text).toDouble .double with
  | finite double => exact ⟨double, rfl, rfl⟩
  | infinite | undefined =>
      rw [nearest] at fits
      cases fits

/-- A decimal that is too large for a double becomes nil. -/
theorem value_float_eq_nil (isDecimal : IsDecimal text) (large : ¬ (decimal text).Fits)
    (position : Nat) : value ⟨.float, text, position⟩ = .ok .nil := by
  rw [← Decimal.isSome_finite?_toDouble_iff] at large
  rw [value_float isDecimal]
  cases nearest : (decimal text).toDouble .double with
  | finite double =>
      rw [nearest] at large
      exact absurd rfl large
  | infinite | undefined => rfl

end Numeral

end Stencil
