import Stencil.Proofs.Grammar.Locality

/-!
# Numerals

Which texts the rules of numbers read, and in front of what: a decimal number
has digits on both sides of its point, an integer has digits only, and where
both rules could read something, the first one does.
-/

namespace Stencil

namespace Grammar

open Peg (consume)

/--
A numeral in front of a text: the rule that reads it, and what this rule reads.
Decimal numbers are tried first.
-/
inductive IsNumeral (back : List Char) : Rule → List Char → Prop
  | float {text : List Char}
      (read : float.read (text ++ back) = some ([⟨.float, text, text ++ back, []⟩], back)) :
      IsNumeral back .float text
  | int {text : List Char} (noFloat : float.read (text ++ back) = none)
      (read : int.read (text ++ back) = some ([⟨.int, text, text ++ back, []⟩], back)) :
      IsNumeral back .int text

/-- The texts of decimal numbers: digits on both sides of a point, maybe behind a minus. -/
inductive IsDecimal : List Char → Prop
  | mk {sign whole fraction : List Char} (signed : sign = [] ∨ sign = ['-'])
      (whole_ne : whole ≠ []) (whole_digits : ∀ char ∈ whole, char.isDigit = true)
      (fraction_ne : fraction ≠ []) (fraction_digits : ∀ char ∈ fraction, char.isDigit = true) :
      IsDecimal (sign ++ (whole ++ '.' :: fraction))

/-- Characters that a numeral begins with. -/
def isNumeralStart (char : Char) : Bool :=
  char.isDigit || char == '-'

theorem isInnerChar_of_isNumeralStart {char : Char} (starts : isNumeralStart char = true) :
    isInnerChar char = true := by
  rw [isNumeralStart, Bool.or_eq_true, beq_iff_eq] at starts
  rcases starts with isDigit | rfl
  · exact isInnerChar_of_isIdentChar (isIdentChar_of_isDigit isDigit)
  · rfl

/-! ## What the rules of numbers read -/

theorem consume_char_eq_some {expected : Char} {input text rest : List Char}
    (consumed : (char expected).consume input = some (text, rest)) :
    text = [expected] ∧ input = expected :: rest := by
  cases input with
  | nil => cases consumed
  | cons first input =>
      by_cases same : first = expected
      · subst same
        rw [char, consume, if_pos (beq_self_eq_true first)] at consumed
        cases consumed
        exact ⟨rfl, rfl⟩
      · rw [char, Peg.consume_satisfy_eq_none (by simpa using same)] at consumed
        cases consumed

theorem consume_sign_eq_some {input text rest : List Char}
    (consumed : (char '-').optional.consume input = some (text, rest)) :
    (text = [] ∨ text = ['-']) ∧ input = text ++ rest := by
  rw [consume] at consumed
  split at consumed
  · cases consumed
    exact ⟨.inl rfl, rfl⟩
  · next taken =>
      cases consumed
      obtain ⟨rfl, rfl⟩ := consume_char_eq_some taken
      exact ⟨.inr rfl, rfl⟩

theorem consume_digits_eq_some {input text rest : List Char}
    (consumed : digit.oneOrMore.consume input = some (text, rest)) :
    text ≠ [] ∧ (∀ char ∈ text, char.isDigit = true) ∧ input = text ++ rest := by
  obtain ⟨first, middle, later, here, there, rfl⟩ := Peg.exists_of_consume_andThen consumed
  cases input with
  | nil => cases here
  | cons char input =>
      cases isDigit : char.isDigit with
      | false =>
          rw [digit, Peg.consume_satisfy_eq_none isDigit] at here
          cases here
      | true =>
          rw [digit, Peg.consume_satisfy isDigit] at here
          rw [digit, Peg.consume_many_satisfy] at there
          cases here
          cases there
          refine ⟨by simp, List.forall_mem_cons.2 ⟨isDigit, fun char => ?_⟩, ?_⟩
          · exact List.mem_takeWhile_imp
          · rw [List.append_assoc, List.takeWhile_append_dropWhile, List.singleton_append]

theorem exists_of_read_int {input rest : List Char} {trees : List Tree}
    (found : int.read input = some (trees, rest)) :
    ∃ text, IsInteger text ∧ input = text ++ rest ∧ trees = [⟨.int, text, input, []⟩] := by
  obtain ⟨⟨text, last⟩, consumed, same⟩ := Option.map_eq_some_iff.1 found
  cases same
  obtain ⟨sign, middle, digits, signed, run, rfl⟩ := Peg.exists_of_consume_andThen consumed
  obtain ⟨isSign, rfl⟩ := consume_sign_eq_some signed
  obtain ⟨nonempty, all, rfl⟩ := consume_digits_eq_some run
  refine ⟨sign ++ digits, ?_, by rw [List.append_assoc], rfl⟩
  rcases isSign with rfl | rfl
  · exact .natural nonempty all
  · exact .negative nonempty all

theorem exists_of_read_float {input rest : List Char} {trees : List Tree}
    (found : float.read input = some (trees, rest)) :
    ∃ text, IsDecimal text ∧ input = text ++ rest ∧ trees = [⟨.float, text, input, []⟩] := by
  obtain ⟨⟨text, last⟩, consumed, same⟩ := Option.map_eq_some_iff.1 found
  cases same
  obtain ⟨sign, _, _, signed, unsigned, rfl⟩ := Peg.exists_of_consume_andThen consumed
  obtain ⟨whole, _, _, wholeRun, pointed, rfl⟩ := Peg.exists_of_consume_andThen unsigned
  obtain ⟨point, _, fraction, pointRead, fractionRun, rfl⟩ :=
    Peg.exists_of_consume_andThen pointed
  obtain ⟨isSign, rfl⟩ := consume_sign_eq_some signed
  obtain ⟨whole_ne, whole_digits, rfl⟩ := consume_digits_eq_some wholeRun
  obtain ⟨rfl, rfl⟩ := consume_char_eq_some pointRead
  obtain ⟨fraction_ne, fraction_digits, rfl⟩ := consume_digits_eq_some fractionRun
  exact ⟨_, .mk isSign whole_ne whole_digits fraction_ne fraction_digits, by simp, rfl⟩

theorem forall_isInnerChar_of_isDigit {digits : List Char}
    (all : ∀ char ∈ digits, char.isDigit = true) : ∀ char ∈ digits, isInnerChar char = true :=
  fun char member => isInnerChar_of_isIdentChar (isIdentChar_of_isDigit (all char member))

namespace IsNumeral

variable {back text : List Char} {rule : Rule}

theorem isInteger (numeral : IsNumeral back .int text) : IsInteger text := by
  cases numeral with
  | int _ read =>
      obtain ⟨other, integer, same, -⟩ := exists_of_read_int read
      rwa [List.append_cancel_right same]

/-- A decimal number is a numeral where no more letters or digits follow. -/
theorem of_isDecimal (decimal : IsDecimal text) (ends : WordEnds back) :
    IsNumeral back .float text := by
  cases decimal with
  | @mk sign whole fraction signed whole_ne whole_digits fraction_ne fraction_digits =>
      have pointed : ((char '.').andThen digit.oneOrMore).consume ('.' :: (fraction ++ back)) =
          some ('.' :: fraction, back) :=
        Peg.consume_andThen (Peg.consume_satisfy rfl _)
          (consume_digits ends fraction_ne fraction_digits)
      have unsigned := Peg.consume_andThen
        (consume_digits (wordEnds_cons rfl (fraction ++ back)) whole_ne whole_digits) pointed
      have read := Peg.consume_andThen (consume_sign signed whole_ne whole_digits _) unsigned
      exact .float (Peg.read_leaf (by simpa using read))

theorem isDecimal (numeral : IsNumeral back .float text) : IsDecimal text := by
  cases numeral with
  | float read =>
      obtain ⟨other, decimal, same, -⟩ := exists_of_read_float read
      rwa [List.append_cancel_right same]

theorem rule_eq (numeral : IsNumeral back rule text) : rule = .float ∨ rule = .int := by
  cases numeral with
  | float => exact .inl rfl
  | int => exact .inr rfl

theorem forall_isInnerChar (numeral : IsNumeral back rule text) :
    ∀ char ∈ text, isInnerChar char = true := by
  rcases numeral.rule_eq with rfl | rfl
  · cases numeral.isDecimal with
    | @mk sign whole fraction signed _ whole_digits _ fraction_digits =>
        have signInner : ∀ char ∈ sign, isInnerChar char = true := by
          rcases signed with rfl | rfl
          · simp
          · exact List.forall_mem_singleton.2 rfl
        exact List.forall_mem_append.2 ⟨signInner, List.forall_mem_append.2
          ⟨forall_isInnerChar_of_isDigit whole_digits,
            List.forall_mem_cons.2 ⟨rfl, forall_isInnerChar_of_isDigit fraction_digits⟩⟩⟩
  · cases numeral.isInteger with
    | natural _ all => exact forall_isInnerChar_of_isDigit all
    | negative _ all =>
        exact List.forall_mem_cons.2 ⟨rfl, forall_isInnerChar_of_isDigit all⟩

/-- A numeral begins with a digit or a minus. -/
theorem exists_cons (numeral : IsNumeral back rule text) :
    ∃ char chars, text = char :: chars ∧ isNumeralStart char = true := by
  have starts {digits : List Char} (nonempty : digits ≠ [])
      (all : ∀ char ∈ digits, char.isDigit = true) (more : List Char) :
      ∃ char chars, digits ++ more = char :: chars ∧ isNumeralStart char = true := by
    obtain ⟨char, chars, rfl⟩ := List.exists_cons_of_ne_nil nonempty
    exact ⟨char, chars ++ more, rfl, by simp [isNumeralStart, all char List.mem_cons_self]⟩
  rcases numeral.rule_eq with rfl | rfl
  · cases numeral.isDecimal with
    | mk signed whole_ne whole_digits =>
        rcases signed with rfl | rfl
        · exact starts whole_ne whole_digits _
        · exact ⟨'-', _, rfl, rfl⟩
  · cases numeral.isInteger with
    | natural nonempty all => simpa using starts nonempty all []
    | negative => exact ⟨'-', _, rfl, rfl⟩

theorem length_pos (numeral : IsNumeral back rule text) : 0 < text.length := by
  obtain ⟨char, chars, rfl, -⟩ := numeral.exists_cons
  simp

theorem skipBlanks_append (numeral : IsNumeral back rule text) :
    skipBlanks (text ++ back) = text ++ back := by
  obtain ⟨char, chars, rfl, starts⟩ := numeral.exists_cons
  exact skipBlanks_cons_of_not_blank
    (isTagBlank_of_isInnerChar (isInnerChar_of_isNumeralStart starts)) (chars ++ back)

theorem forall_not_blank (numeral : IsNumeral back rule text) :
    ∀ char ∈ text, Text.isBlank char = false :=
  fun char member => isBlank_of_isInnerChar (numeral.forall_isInnerChar char member)

theorem ne_nil (numeral : IsNumeral back rule text) : text ≠ [] :=
  List.ne_nil_of_length_pos numeral.length_pos

theorem quote_not_mem (numeral : IsNumeral back rule text) {quote : Char}
    (quoted : isQuote quote = true) : quote ∉ text := by
  intro member
  have inner := numeral.forall_isInnerChar quote member
  rw [isQuote, Bool.or_eq_true, beq_iff_eq, beq_iff_eq] at quoted
  rcases quoted with rfl | rfl <;> cases inner

/-- What stands behind a boundary does not decide whether a text is a numeral. -/
theorem of_append {more : List Char}
    (outside : ∀ char, more.head? = some char → isInnerChar char = false)
    (numeral : IsNumeral (back ++ more) rule text) : IsNumeral back rule text := by
  cases numeral with
  | float read =>
      rw [← List.append_assoc] at read
      exact .float (Peg.read_leaf_of_append inside_float outside read)
  | int noFloat read =>
      rw [← List.append_assoc] at read noFloat
      exact .int (Peg.read_leaf_eq_none_of_append inside_float outside noFloat)
        (Peg.read_leaf_of_append inside_int outside read)

end IsNumeral

end Grammar

end Stencil
