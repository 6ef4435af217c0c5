import Stencil.Proofs.Grammar.Primary
import Stencil.Proofs.Grammar.Place

/-!
# Reading up to a boundary

Names, numbers, words and operators are made of characters of their own.  They
are read before a character that is none of these as if the text ended there, so
that what follows a text decides nothing about how the text is read.
-/

namespace Stencil

namespace Text

/-- A word that ends before a boundary or cannot go on there. -/
theorem after_append_of_outside {accepts : Char → Bool} {word back : List Char}
    (inside : ∀ char ∈ word, accepts char = true)
    (outside : ∀ char, back.head? = some char → accepts char = false) (front : List Char) :
    after word (front ++ back) = (after word front).map (· ++ back) := by
  induction word generalizing front with
  | nil => rfl
  | cons expected word ih =>
      obtain ⟨here, later⟩ := List.forall_mem_cons.1 inside
      cases front with
      | nil =>
          cases back with
          | nil => rfl
          | cons first back =>
              have differs : expected ≠ first := by
                rintro rfl
                rw [outside expected rfl] at here
                cases here
              simp [after, differs]
      | cons first front =>
          by_cases same : expected = first
          · simp [after, same, ih later]
          · simp [after, same]

end Text

namespace Grammar

theorem skipBlanks_append_of_ne_nil {front : List Char} (solid : skipBlanks front ≠ [])
    (back : List Char) : skipBlanks (front ++ back) = skipBlanks front ++ back := by
  induction front with
  | nil => exact absurd rfl solid
  | cons char front ih =>
      rw [List.cons_append, skipBlanks, skipBlanks, List.dropWhile_cons, List.dropWhile_cons]
      rw [skipBlanks, List.dropWhile_cons] at solid
      cases blank : isTagBlank char with
      | true =>
          rw [blank, if_pos rfl] at solid
          rw [if_pos rfl, if_pos rfl]
          exact ih solid
      | false => rfl

theorem skipBlanks_append_of_eq_nil {front : List Char} (blank : skipBlanks front = [])
    (back : List Char) : skipBlanks (front ++ back) = skipBlanks back := by
  have all : ∀ char ∈ front, isTagBlank char = true := List.dropWhile_eq_nil_iff.1 blank
  exact List.dropWhile_append_of_pos all

theorem skipBlanks_append_of_solid {back : List Char} (solid : skipBlanks back = back)
    (front : List Char) : skipBlanks (front ++ back) = skipBlanks front ++ back := by
  by_cases blank : skipBlanks front = []
  · rw [skipBlanks_append_of_eq_nil blank, blank, solid, List.nil_append]
  · exact skipBlanks_append_of_ne_nil blank back

namespace Peg

/-- Whatever an expression reads, it reads at least one character. -/
def Advances (grammar : Peg) : Prop :=
  ∀ {input text rest : List Char}, grammar.consume input = some (text, rest) →
    rest.length < input.length

theorem advances_satisfy (accepts : Char → Bool) : (Peg.satisfy accepts).Advances := by
  intro input text rest consumed
  cases input with
  | nil => cases consumed
  | cons char input =>
      simp only [consume] at consumed
      split_ifs at consumed
      cases consumed
      simp

theorem Advances.andThen {first : Peg} (advances : first.Advances) (second : Peg) :
    (first.andThen second).Advances := by
  intro input text rest consumed
  obtain ⟨opened, middle, later, here, there, -⟩ := exists_of_consume_andThen consumed
  have kept := (suffix_of_consume second List.suffix_rfl there).length_le
  exact Nat.lt_of_le_of_lt kept (advances here)

/-- An expression all of whose characters, ahead of it too, are of a class. -/
inductive Inside (accepts : Char → Bool) : Peg → Prop
  | satisfy {kind : Char → Bool} (inside : ∀ char, kind char = true → accepts char = true) :
      Inside accepts (.satisfy kind)
  | literal {word : List Char} (inside : ∀ char ∈ word, accepts char = true) :
      Inside accepts (.literal word)
  | andThen {first second : Peg} (here : Inside accepts first) (there : Inside accepts second) :
      Inside accepts (.andThen first second)
  | orElse {first second : Peg} (here : Inside accepts first) (there : Inside accepts second) :
      Inside accepts (.orElse first second)
  | optional {body : Peg} (inside : Inside accepts body) : Inside accepts (.optional body)
  | many {body : Peg} (inside : Inside accepts body) (advances : body.Advances) :
      Inside accepts (.many body)
  | notAhead {body : Peg} (inside : Inside accepts body) : Inside accepts (.notAhead body)

/-- Text behind what a reading leaves. -/
def Reading.append {α : Type} (back : List Char) (reading : Reading α) : Reading α :=
  reading.map fun (found, rest) => (found, rest ++ back)

@[simp]
theorem Reading.append_none {α : Type} (back : List Char) :
    Reading.append back (none : Reading α) = none :=
  rfl

@[simp]
theorem Reading.append_some {α : Type} (back : List Char) (found : List α) (rest : List Char) :
    Reading.append back (some (found, rest)) = some (found, rest ++ back) :=
  rfl

/-- A repetition goes as far as it can before a boundary. -/
theorem repeatStep_append {α : Type} {step : List Char → Reading α} {back : List Char}
    (bounded : ∀ front, step (front ++ back) = (step front).append back)
    (advances : ∀ {input found rest}, step input = some (found, rest) →
      rest.length < input.length)
    (bound long front : List Char) (enough : front.length ≤ bound.length)
    (more : front.length ≤ long.length) :
    repeatStep step long (front ++ back) =
      ((repeatStep step bound front).1, (repeatStep step bound front).2 ++ back) := by
  have stops : step [] = none := by
    cases taken : step [] with
    | none => rfl
    | some reading => exact absurd (advances taken) (Nat.not_lt_zero _)
  have stopsBehind : step back = none := by
    have none_read := bounded []
    rwa [stops] at none_read
  induction bound generalizing long front with
  | nil =>
      obtain rfl := List.length_eq_zero_iff.1 (Nat.le_zero.1 enough)
      cases long with
      | nil => rfl
      | cons _ long => simp [repeatStep, stopsBehind]
  | cons _ bound ih =>
      cases long with
      | nil =>
          obtain rfl := List.length_eq_zero_iff.1 (Nat.le_zero.1 more)
          simp [repeatStep, stops]
      | cons _ long =>
          rw [repeatStep, repeatStep, bounded front]
          cases taken : step front with
          | none => rfl
          | some reading =>
              obtain ⟨found, rest⟩ := reading
              have shorter := advances taken
              rw [List.length_cons] at enough more
              have later := ih long rest (by omega) (by omega)
              simp only [Reading.append_some, later]

/-- Before a boundary an expression is read as at the end of the text. -/
theorem Inside.consume_append {accepts : Char → Bool} {grammar : Peg}
    (inside : grammar.Inside accepts) {back : List Char}
    (outside : ∀ char, back.head? = some char → accepts char = false) (front : List Char) :
    grammar.consume (front ++ back) = (grammar.consume front).append back := by
  induction inside generalizing front with
  | @satisfy kind inside =>
      cases front with
      | cons char front =>
          by_cases accepted : kind char <;> simp [consume, accepted]
      | nil =>
          cases back with
          | nil => rfl
          | cons char back =>
              have refused : kind char = false := by
                cases accepted : kind char with
                | false => rfl
                | true =>
                    have foreign := outside char rfl
                    rw [inside char accepted] at foreign
                    cases foreign
              exact consume_satisfy_eq_none refused back
  | @literal word inside =>
      rw [consume, consume, Text.after_append_of_outside inside outside]
      cases Text.after word front <;> rfl
  | @andThen first second _ _ firstIH secondIH =>
      rw [consume, consume, firstIH]
      cases first.consume front with
      | none => rfl
      | some reading =>
          obtain ⟨text, rest⟩ := reading
          simp only [Reading.append_some, secondIH]
          cases second.consume rest <;> rfl
  | @orElse first second _ _ firstIH secondIH =>
      rw [consume, consume, firstIH, secondIH]
      cases first.consume front <;> rfl
  | @optional body _ ih =>
      rw [consume, consume, ih]
      cases body.consume front <;> rfl
  | @many body _ advances ih =>
      rw [consume, consume]
      refine congrArg some (repeatStep_append ih advances front (front ++ back) front ?_ ?_)
      · exact Nat.le_refl _
      · rw [List.length_append]
        exact Nat.le_add_right _ _
  | @notAhead body _ ih =>
      rw [consume, consume, ih]
      cases body.consume front <;> rfl

section Leaf

variable {accepts : Char → Bool} {body : Peg} {rule : Rule} {front back text rest : List Char}

theorem read_leaf_of_append (inside : body.Inside accepts)
    (outside : ∀ char, back.head? = some char → accepts char = false)
    (found : (leaf rule body).read (front ++ back) =
      some ([⟨rule, text, front ++ back, []⟩], rest ++ back)) :
    (leaf rule body).read front = some ([⟨rule, text, front, []⟩], rest) := by
  obtain ⟨⟨consumed, last⟩, taken, same⟩ := Option.map_eq_some_iff.1 found
  rw [inside.consume_append outside] at taken
  obtain ⟨⟨consumed, before⟩, there, left⟩ := Option.map_eq_some_iff.1 taken
  cases left
  simp only [Prod.mk.injEq, List.cons.injEq, Tree.mk.injEq, and_true, true_and,
    List.append_cancel_right_eq] at same
  obtain ⟨rfl, rfl⟩ := same
  exact read_leaf there

theorem read_leaf_eq_none_of_append (inside : body.Inside accepts)
    (outside : ∀ char, back.head? = some char → accepts char = false)
    (fails : (leaf rule body).read (front ++ back) = none) :
    (leaf rule body).read front = none := by
  have stops : body.consume (front ++ back) = none := Option.map_eq_none_iff.1 fails
  rw [inside.consume_append outside] at stops
  exact read_leaf_eq_none (Option.map_eq_none_iff.1 stops)

end Leaf

end Peg

/-! ## Names, numbers and words -/

/-- The characters of names, numbers and paths. -/
def isInnerChar (char : Char) : Bool :=
  isIdentChar char || char == '.'

theorem isInnerChar_of_isIdentChar {char : Char} (inner : isIdentChar char = true) :
    isInnerChar char = true := by
  rw [isInnerChar, inner, Bool.true_or]

theorem isTagBlank_of_isInnerChar {char : Char} (inner : isInnerChar char = true) :
    isTagBlank char = false := by
  rcases Bool.or_eq_true_iff.1 inner with letter | point
  · cases blank : isTagBlank char with
    | false => rfl
    | true =>
        simp only [isTagBlank, Bool.or_eq_true, decide_eq_true_eq] at blank
        rcases blank with ((rfl | rfl) | rfl) | rfl <;> exact absurd letter (by decide)
  · rw [beq_iff_eq] at point
    rw [point]
    rfl

theorem isBlank_of_isInnerChar {char : Char} (inner : isInnerChar char = true) :
    Text.isBlank char = false := by
  rcases Bool.or_eq_true_iff.1 inner with letter | point
  · exact isBlank_of_isIdentChar letter
  · rw [beq_iff_eq] at point
    rw [point]
    rfl

section

open Peg (Inside)

theorem inside_char {expected : Char} (inner : isInnerChar expected = true) :
    (char expected).Inside isInnerChar := by
  refine .satisfy fun char same => ?_
  rw [beq_iff_eq] at same
  rwa [same]

theorem inside_digits : digit.oneOrMore.Inside isInnerChar := by
  have inside : digit.Inside isInnerChar :=
    .satisfy fun char isDigit => isInnerChar_of_isIdentChar (isIdentChar_of_isDigit isDigit)
  exact .andThen inside (.many inside (Peg.advances_satisfy _))

theorem inside_identLetters : identLetters.Inside isInnerChar := by
  refine .andThen (.satisfy fun char starts => ?_) (.many (.satisfy fun char goesOn => ?_)
    (Peg.advances_satisfy _))
  · exact isInnerChar_of_isIdentChar (isIdentChar_of_isIdentStart starts)
  · exact isInnerChar_of_isIdentChar goesOn

theorem inside_word {letters : List Char} (chars : letters.all isIdentChar = true) :
    (word letters).Inside isInnerChar :=
  .andThen (.literal fun char member =>
      isInnerChar_of_isIdentChar (List.all_eq_true.1 chars char member))
    (.notAhead (.satisfy fun _ goesOn => isInnerChar_of_isIdentChar goesOn))

/-- What a leaf reads, as it stands. -/
def Peg.content : Peg → Peg
  | .leaf _ body => body
  | grammar => grammar

theorem inside_int : int.content.Inside isInnerChar :=
  .andThen (.optional (inside_char rfl)) inside_digits

theorem inside_float : float.content.Inside isInnerChar :=
  .andThen (.optional (inside_char rfl))
    (.andThen inside_digits (.andThen (inside_char rfl) inside_digits))

theorem inside_path : path.content.Inside isInnerChar :=
  .andThen inside_identLetters
    (.many (.andThen (inside_char rfl) (.orElse inside_identLetters inside_digits))
      (Peg.Advances.andThen (Peg.advances_satisfy _) _))

theorem inside_boolean : boolean.content.Inside isInnerChar :=
  .orElse (inside_word (by decide)) (inside_word (by decide))

theorem inside_nil : nil.content.Inside isInnerChar :=
  .orElse (inside_word (by decide)) (inside_word (by decide))

end

/-! ## Strings -/

/-- A quoted text goes up to the next quote. -/
theorem consume_quoted_eq_some_iff {quote : Char} {input text rest : List Char} :
    (quoted quote).consume input = some (text, rest) ↔
      ∃ content, quote ∉ content ∧ input = quote :: (content ++ quote :: rest) ∧
        text = quote :: (content ++ [quote]) := by
  constructor
  · intro consumed
    cases input with
    | nil => cases consumed
    | cons first more =>
        by_cases same : first = quote
        · subst same
          have opened : (char first).consume (first :: more) = some ([first], more) :=
            Peg.consume_satisfy (by simp) more
          rw [quoted, Peg.consume, opened] at consumed
          obtain ⟨⟨later, last⟩, closed, whole⟩ := Option.map_eq_some_iff.1 consumed
          cases whole
          rw [Peg.consume, Peg.consume_many_satisfy] at closed
          obtain ⟨⟨closing, behind⟩, found, inner⟩ := Option.map_eq_some_iff.1 closed
          cases inner
          have content : more.takeWhile (· != first) ++ more.dropWhile (· != first) = more :=
            List.takeWhile_append_dropWhile
          have absent : first ∉ more.takeWhile (· != first) := fun member => by
            simpa using List.mem_takeWhile_imp member
          cases left : more.dropWhile (· != first) with
          | nil =>
              rw [left] at found
              cases found
          | cons next others =>
              rw [left] at found content
              by_cases isQuote : next = first
              · subst isQuote
                rw [char, Peg.consume_satisfy (by simp) others] at found
                cases found
                exact ⟨_, absent, by rw [content], rfl⟩
              · rw [char, Peg.consume_satisfy_eq_none (by simpa using isQuote)] at found
                cases found
        · have refused : (quoted quote).consume (first :: more) = none :=
            Peg.consume_andThen_eq_none (Peg.consume_satisfy_eq_none (by simpa using same) more)
          rw [refused] at consumed
          cases consumed
  · rintro ⟨content, absent, rfl, rfl⟩
    exact consume_quoted absent rest

def isQuote (char : Char) : Bool :=
  char == '"' || char == '\x27'

theorem read_string_eq_some_iff {input rest : List Char} {trees : List Tree} :
    string.read input = some (trees, rest) ↔
      ∃ quote content, isQuote quote ∧ quote ∉ content ∧
        input = quote :: (content ++ quote :: rest) ∧
          trees = [⟨.string, quote :: (content ++ [quote]), input, []⟩] := by
  constructor
  · intro found
    obtain ⟨⟨text, last⟩, consumed, same⟩ := Option.map_eq_some_iff.1 found
    cases same
    rw [Peg.consume] at consumed
    split at consumed
    · obtain ⟨content, absent, whole, rfl⟩ := consume_quoted_eq_some_iff.1 consumed
      exact ⟨_, content, by decide, absent, whole, rfl⟩
    · next taken =>
        cases consumed
        obtain ⟨content, absent, whole, rfl⟩ := consume_quoted_eq_some_iff.1 taken
        exact ⟨_, content, by decide, absent, whole, rfl⟩
  · rintro ⟨quote, content, isQuote, absent, rfl, rfl⟩
    have taken := consume_quoted absent rest
    refine Peg.read_leaf ?_
    rw [Grammar.isQuote, Bool.or_eq_true, beq_iff_eq, beq_iff_eq] at isQuote
    rcases isQuote with rfl | rfl
    · exact Peg.consume_orElse_of_some taken
    · have other : (quoted '"').consume ('\x27' :: (content ++ '\x27' :: rest)) = none :=
        Peg.consume_andThen_eq_none (Peg.consume_satisfy_eq_none rfl _)
      rw [Peg.consume_orElse_of_none other]
      exact taken

/-- Only strings begin with a quote. -/
theorem read_word_or_path_of_quote {quote : Char} (isQuote : isQuote quote) (more : List Char) :
    boolean.read (quote :: more) = none ∧ nil.read (quote :: more) = none ∧
      path.read (quote :: more) = none := by
  rw [Grammar.isQuote, Bool.or_eq_true, beq_iff_eq, beq_iff_eq] at isQuote
  rcases isQuote with rfl | rfl <;> exact ⟨rfl, rfl, rfl⟩

end Grammar

end Stencil
