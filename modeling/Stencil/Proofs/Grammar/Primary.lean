import Stencil.Proofs.Grammar.Name

/-!
# Reading literals and operands

Each kind of operand begins with a character of its own, apart from words, so
that the ordered choice between them comes out right.
-/

namespace Stencil

namespace Grammar

/-! ## Numbers and strings -/

/-- The choice between the kinds of literals. -/
def anyLiteral : Peg :=
  float.orElse (int.orElse (string.orElse (boolean.orElse nil)))

theorem consume_digits_eq_none {first : Char} (noDigit : first.isDigit = false)
    (chars : List Char) : digit.oneOrMore.consume (first :: chars) = none :=
  Peg.consume_andThen_eq_none (Peg.consume_satisfy_eq_none noDigit chars)

theorem consume_dash_of_ne {first : Char} (noDash : first ≠ '-') (chars : List Char) :
    (char '-').optional.consume (first :: chars) = some ([], first :: chars) :=
  Peg.consume_optional_of_none (Peg.consume_satisfy_eq_none (by simpa using noDash) chars)

/-- A number begins with a digit or a minus. -/
theorem read_number_eq_none {first : Char} (noDigit : first.isDigit = false)
    (noDash : first ≠ '-') (chars : List Char) :
    float.read (first :: chars) = none ∧ int.read (first :: chars) = none := by
  have unsigned := consume_dash_of_ne noDash chars
  have noDigits := consume_digits_eq_none noDigit chars
  constructor
  · refine Peg.read_leaf_eq_none (Peg.consume_andThen_eq_none_right unsigned ?_)
    exact Peg.consume_andThen_eq_none noDigits
  · exact Peg.read_leaf_eq_none (Peg.consume_andThen_eq_none_right unsigned noDigits)

/-- The texts of integers: digits, maybe behind a minus. -/
inductive IsInteger : List Char → Prop
  | natural {digits : List Char} (nonempty : digits ≠ [])
      (all : ∀ char ∈ digits, char.isDigit = true) : IsInteger digits
  | negative {digits : List Char} (nonempty : digits ≠ [])
      (all : ∀ char ∈ digits, char.isDigit = true) : IsInteger ('-' :: digits)

/-- A sign is read before the digits of a number. -/
theorem consume_sign {sign : List Char} (signed : sign = [] ∨ sign = ['-']) {digits : List Char}
    (nonempty : digits ≠ []) (all : ∀ char ∈ digits, char.isDigit = true) (rest : List Char) :
    (char '-').optional.consume (sign ++ (digits ++ rest)) = some (sign, digits ++ rest) := by
  rcases signed with rfl | rfl
  · obtain ⟨first, more, rfl⟩ := List.exists_cons_of_ne_nil nonempty
    refine consume_dash_of_ne ?_ (more ++ rest)
    rintro rfl
    exact absurd (all '-' List.mem_cons_self) (by decide)
  · exact Peg.consume_optional_of_some (Peg.consume_satisfy rfl (digits ++ rest))

/-- The sign of an integer is read before its digits. -/
theorem exists_consume_sign {text : List Char} (integer : IsInteger text) (rest : List Char) :
    ∃ sign digits, text = sign ++ digits ∧ digits ≠ [] ∧
      (∀ char ∈ digits, char.isDigit = true) ∧
        (char '-').optional.consume (text ++ rest) = some (sign, digits ++ rest) := by
  cases integer with
  | @natural digits nonempty all =>
      exact ⟨[], text, rfl, nonempty, all, consume_sign (.inl rfl) nonempty all rest⟩
  | @negative digits nonempty all =>
      exact ⟨['-'], digits, rfl, nonempty, all, consume_sign (.inr rfl) nonempty all rest⟩

/-- An integer is not read as a decimal number when no point follows. -/
theorem read_integer {text rest : List Char} (integer : IsInteger text)
    (detached : Detached rest) :
    anyLiteral.read (text ++ rest) = some ([⟨.int, text, text ++ rest, []⟩], rest) := by
  obtain ⟨sign, digits, whole, nonempty, all, signed⟩ := exists_consume_sign integer rest
  have run := consume_digits detached.wordEnds nonempty all
  have noPoint : ((char '.').andThen digit.oneOrMore).consume rest = none := by
    refine Peg.consume_andThen_eq_none ?_
    cases rest with
    | nil => rfl
    | cons first rest =>
        exact Peg.consume_satisfy_eq_none (by simpa using detached.noPoint) rest
  have noFloat : float.read (text ++ rest) = none :=
    Peg.read_leaf_eq_none
      (Peg.consume_andThen_eq_none_right signed (Peg.consume_andThen_eq_none_right run noPoint))
  have asInt : int.read (text ++ rest) = some ([⟨.int, text, text ++ rest, []⟩], rest) := by
    refine Peg.read_leaf ?_
    rw [whole] at signed ⊢
    exact Peg.consume_andThen signed run
  rw [anyLiteral, Peg.read_orElse_of_none noFloat, Peg.read_orElse_of_some asInt]

theorem consume_quoted {quote : Char} {content : List Char} (absent : quote ∉ content)
    (rest : List Char) :
    (quoted quote).consume (quote :: (content ++ quote :: rest)) =
      some (quote :: (content ++ [quote]), rest) := by
  have inside : ∀ char ∈ content, (char != quote) = true := by
    intro char member
    simp only [bne_iff_ne, ne_eq]
    rintro rfl
    exact absent member
  obtain ⟨taken, left⟩ := @Text.span_append_eq (· != quote) content (quote :: rest) inside
    (by simp)
  refine Peg.consume_andThen (Peg.consume_satisfy (by simp) _)
    (@Peg.consume_andThen _ _ _ (quote :: rest) rest content [quote] ?_ ?_)
  · rw [Peg.consume_many_satisfy, taken, left]
  · exact Peg.consume_satisfy (by simp) rest

theorem read_quoted {quote : Char} {content : List Char}
    (isQuote : quote = '"' ∨ quote = '\x27') (absent : quote ∉ content) (rest : List Char) :
    anyLiteral.read
        (quote :: (content ++ quote :: rest)) =
      some ([⟨.string, quote :: (content ++ [quote]), quote :: (content ++ quote :: rest), []⟩],
        rest) := by
  have noNumber : float.read (quote :: (content ++ quote :: rest)) = none ∧
      int.read (quote :: (content ++ quote :: rest)) = none := by
    rcases isQuote with rfl | rfl <;> exact read_number_eq_none rfl (by decide) _
  have found : string.read (quote :: (content ++ quote :: rest)) =
      some ([⟨.string, quote :: (content ++ [quote]), quote :: (content ++ quote :: rest), []⟩],
        rest) := by
    refine Peg.read_leaf ?_
    rcases isQuote with rfl | rfl
    · exact Peg.consume_orElse_of_some (consume_quoted absent rest)
    · have other : (quoted '"').consume ('\x27' :: (content ++ '\x27' :: rest)) = none :=
        Peg.consume_andThen_eq_none (Peg.consume_satisfy_eq_none rfl _)
      rw [Peg.consume_orElse_of_none other]
      exact consume_quoted absent rest
  rw [anyLiteral, Peg.read_orElse_of_none noNumber.1, Peg.read_orElse_of_none noNumber.2,
    Peg.read_orElse_of_some found]

/-! ## Words -/

/-- What begins as a word is no number and no string. -/
theorem read_literal_name {name : List Char} (named : isName name) (rest : List Char) :
    anyLiteral.read (name ++ rest) = (boolean.orElse nil).read (name ++ rest) := by
  obtain ⟨first, more, rfl, starts, -⟩ := exists_of_isName named
  have noNumber := read_number_eq_none (isDigit_of_isIdentStart starts)
    (ne_dash_of_isIdentStart starts) (more ++ rest)
  have noQuoted {quote : Char} (other : isIdentStart quote = false) :
      (quoted quote).consume (first :: (more ++ rest)) = none := by
    refine Peg.consume_andThen_eq_none (Peg.consume_satisfy_eq_none ?_ _)
    rw [beq_eq_false_iff_ne]
    rintro rfl
    rw [starts] at other
    cases other
  have noString : string.read (first :: (more ++ rest)) = none := by
    refine Peg.read_leaf_eq_none ?_
    rw [Peg.consume_orElse_of_none (noQuoted rfl)]
    exact noQuoted rfl
  rw [List.cons_append, anyLiteral, Peg.read_orElse_of_none noNumber.1,
    Peg.read_orElse_of_none noNumber.2, Peg.read_orElse_of_none noString]

section Words

variable {name rest : List Char} (named : isName name) (ends : WordEnds rest)

include named ends

theorem consume_word_name {letters : List Char}
    (chars : ∀ char ∈ letters, isIdentChar char) :
    (word letters).consume (name ++ rest) =
      if name = letters then some (name, rest) else none := by
  obtain ⟨taken, left⟩ := Text.span_append_eq (isIdentChar_of_mem_name named) ends
  rw [Peg.consume_word chars, taken, left]
  split
  · next same => rw [same]
  · rfl

/-- One of two words, and not just a word that begins with it. -/
theorem read_words {rule : Rule} {first second : List Char}
    (first_chars : ∀ char ∈ first, isIdentChar char)
    (second_chars : ∀ char ∈ second, isIdentChar char) :
    (Peg.leaf rule ((word first).orElse (word second))).read (name ++ rest) =
      if name = first ∨ name = second then
        some ([⟨rule, name, name ++ rest, []⟩], rest)
      else
        none := by
  have here := consume_word_name named ends first_chars
  have there := consume_word_name named ends second_chars
  by_cases isFirst : name = first
  · rw [if_pos isFirst] at here
    rw [if_pos (.inl isFirst)]
    exact Peg.read_leaf (Peg.consume_orElse_of_some here)
  · rw [if_neg isFirst] at here
    by_cases isSecond : name = second
    · rw [if_pos isSecond] at there
      rw [if_pos (.inr isSecond)]
      refine Peg.read_leaf ?_
      rw [Peg.consume_orElse_of_none here, there]
    · rw [if_neg isSecond] at there
      rw [if_neg (not_or.2 ⟨isFirst, isSecond⟩)]
      refine Peg.read_leaf_eq_none ?_
      rw [Peg.consume_orElse_of_none here, there]

theorem read_boolean_eq :
    boolean.read (name ++ rest) =
      if name = "true".toList ∨ name = "false".toList then
        some ([⟨.boolean, name, name ++ rest, []⟩], rest)
      else
        none :=
  read_words named ends (isIdentChar_of_mem_name (by decide)) (isIdentChar_of_mem_name (by decide))

theorem read_nil_eq :
    nil.read (name ++ rest) =
      if name = "nil".toList ∨ name = "null".toList then
        some ([⟨.nil, name, name ++ rest, []⟩], rest)
      else
        none :=
  read_words named ends (isIdentChar_of_mem_name (by decide)) (isIdentChar_of_mem_name (by decide))

theorem read_boolean (isWord : name = "true".toList ∨ name = "false".toList) :
    anyLiteral.read (name ++ rest) = some ([⟨.boolean, name, name ++ rest, []⟩], rest) := by
  have found := read_boolean_eq named ends
  rw [if_pos isWord] at found
  rw [read_literal_name named, Peg.read_orElse_of_some found]

/-- A word that is no literal. -/
theorem read_literal_name_eq_none
    (other : name ∉ literalWords) :
    anyLiteral.read (name ++ rest) = none := by
  simp only [literalWords, List.mem_cons, List.not_mem_nil, or_false, not_or] at other
  have noBoolean := read_boolean_eq named ends
  rw [if_neg (not_or.2 ⟨other.1, other.2.1⟩)] at noBoolean
  rw [read_literal_name named, Peg.read_orElse_of_none noBoolean, read_nil_eq named ends,
    if_neg (not_or.2 other.2.2)]

end Words

theorem read_nil {rest : List Char} (ends : WordEnds rest) :
    anyLiteral.read ("nil".toList ++ rest) =
      some ([⟨.nil, "nil".toList, "nil".toList ++ rest, []⟩], rest) := by
  have named : isName "nil".toList := by decide
  have noBoolean := read_boolean_eq named ends
  rw [if_neg (by decide)] at noBoolean
  rw [read_literal_name named, Peg.read_orElse_of_none noBoolean, read_nil_eq named ends,
    if_pos (by decide)]

/-! ## Operands -/

theorem read_primary_of_literal {input rest : List Char} {tree : Tree}
    (found : anyLiteral.read input = some ([tree], rest)) :
    primary.read input =
      some ([⟨.primary, [], input, [⟨.literal, [], input, [tree]⟩]⟩], rest) :=
  Peg.read_node (Peg.read_orElse_of_some (Peg.read_node found))

theorem read_primary_path {head : List Char} {segments : List (List Char)} {rest : List Char}
    (named : isName head)
    (other : head ∉ literalWords)
    (parts : ∀ segment ∈ segments, isSegment segment) (detached : Detached rest) :
    primary.read (pathLetters head segments ++ rest) =
      some ([⟨.primary, [], pathLetters head segments ++ rest,
        [⟨.path, pathLetters head segments, pathLetters head segments ++ rest, []⟩]⟩], rest) := by
  have noLiteral : literal.read (pathLetters head segments ++ rest) = none := by
    have none_read := read_literal_name_eq_none named (detached.wordEnds_segments segments) other
    rw [← List.append_assoc] at none_read
    rw [literal, Peg.read]
    exact congrArg (Option.map _) none_read
  refine Peg.read_node ?_
  rw [Peg.read_orElse_of_none noLiteral]
  exact Peg.read_leaf (consume_path named parts detached)

end Grammar

end Stencil
