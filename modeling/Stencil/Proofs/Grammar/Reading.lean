import Mathlib.Data.List.DropRight
import Mathlib.Data.List.TakeWhile
import Mathlib.Tactic.Tauto
import Stencil.Grammar.Tag
import Stencil.Proofs.Text.Occurrence
import Stencil.Proofs.Text.Trimming

/-!
# Reading with a grammar

What expressions of the grammar read at the beginning of a text, in terms of
the longest run of characters of a class.
-/

namespace Stencil

namespace Grammar

/-- Nothing that a word could go on with. -/
def WordEnds (rest : List Char) : Prop :=
  ∀ char, rest.head? = some char → isIdentChar char = false

/-- Nothing that a word, a number or a path could go on with. -/
structure Detached (rest : List Char) : Prop where
  wordEnds : WordEnds rest
  noPoint : rest.head? ≠ some '.'

theorem wordEnds_cons {char : Char} (other : isIdentChar char = false) (rest : List Char) :
    WordEnds (char :: rest) := by
  intro head same
  cases same
  exact other

theorem detached_nil : Detached [] where
  wordEnds := by simp [WordEnds]
  noPoint := by simp

theorem detached_cons {char : Char} (other : isIdentChar char = false) (noPoint : char ≠ '.')
    (rest : List Char) : Detached (char :: rest) where
  wordEnds := wordEnds_cons other rest
  noPoint := by simpa using noPoint

theorem isIdentChar_iff {char : Char} :
    isIdentChar char ↔ isIdentStart char ∨ char.isDigit ∨ char = '-' := by
  simp only [isIdentChar, isIdentStart, Char.isAlphanum, Bool.or_eq_true, beq_iff_eq]
  tauto

theorem isIdentChar_of_isDigit {char : Char} (digit : char.isDigit = true) :
    isIdentChar char = true :=
  isIdentChar_iff.2 (.inr (.inl digit))

theorem isIdentChar_of_isIdentStart {char : Char} (starts : isIdentStart char = true) :
    isIdentChar char = true :=
  isIdentChar_iff.2 (.inl starts)

/-- An identifier begins with a letter of the Latin alphabet or with `_`. -/
theorem toNat_of_isIdentStart {char : Char} (starts : isIdentStart char = true) :
    65 ≤ char.toNat ∧ char.toNat ≤ 122 := by
  simp only [isIdentStart, Bool.or_eq_true, beq_iff_eq] at starts
  rcases starts with alpha | rfl
  · delta Char.isAlpha Char.isUpper Char.isLower at alpha
    simp only [Bool.or_eq_true, Bool.and_eq_true, decide_eq_true_eq, ge_iff_le,
      UInt32.le_iff_toNat_le] at alpha
    rcases alpha with ⟨above, below⟩ | ⟨above, below⟩
    · exact ⟨above, Nat.le_trans below (by decide)⟩
    · exact ⟨Nat.le_trans (by decide) above, below⟩
  · decide

theorem toNat_of_isDigit {char : Char} (digit : char.isDigit = true) :
    48 ≤ char.toNat ∧ char.toNat ≤ 57 := by
  simp only [Char.isDigit, Bool.and_eq_true, decide_eq_true_eq, ge_iff_le,
    UInt32.le_iff_toNat_le] at digit
  exact digit

theorem isBlank_of_isIdentChar {char : Char} (letter : isIdentChar char = true) :
    Text.isBlank char = false := by
  rcases isIdentChar_iff.1 letter with starts | digit | rfl
  · have range := toNat_of_isIdentStart starts
    exact Text.isBlank_of_printable (by omega) (by omega)
  · have range := toNat_of_isDigit digit
    exact Text.isBlank_of_printable (by omega) (by omega)
  · decide

theorem skipBlanks_skipBlanks (input : List Char) :
    skipBlanks (skipBlanks input) = skipBlanks input :=
  List.dropWhile_idempotent isTagBlank input

theorem skipBlanks_cons_of_not_blank {char : Char} (solid : isTagBlank char = false)
    (chars : List Char) : skipBlanks (char :: chars) = char :: chars :=
  List.dropWhile_cons_of_neg (by simp [solid])

@[simp]
theorem skipBlanks_space (chars : List Char) : skipBlanks (' ' :: chars) = skipBlanks chars :=
  List.dropWhile_cons_of_pos rfl

theorem length_skipBlanks_le (input : List Char) : (skipBlanks input).length ≤ input.length :=
  (List.dropWhile_sublist _).length_le

/-- Skipping blanks stops at the first character that is none. -/
theorem length_lt_skipBlanks_append {text : List Char} {char : Char} (member : char ∈ text)
    (solid : isTagBlank char = false) (rest : List Char) :
    rest.length < (skipBlanks (text ++ rest)).length := by
  induction text with
  | nil => cases member
  | cons first text ih =>
      cases blank : isTagBlank first with
      | false =>
          rw [List.cons_append, skipBlanks_cons_of_not_blank blank]
          simp only [List.length_cons, List.length_append]
          omega
      | true =>
          have later : char ∈ text := by
            rcases List.mem_cons.1 member with rfl | later
            · rw [solid] at blank
              cases blank
            · exact later
          have skipped : skipBlanks (first :: text ++ rest) = skipBlanks (text ++ rest) :=
            List.dropWhile_cons_of_pos blank
          rw [skipped]
          exact ih later

namespace Peg

/-! ## Repetition -/

/-- The steps that a repetition takes, up to the first that cannot be taken. -/
inductive Repeats {α : Type} (step : List Char → Reading α) :
    List Char → List (List α) → List Char → Prop
  | stop {input : List Char} (stops : step input = none) : Repeats step input [] input
  | next {input rest last : List Char} {found : List α} {more : List (List α)}
      (here : step input = some (found, rest)) (shorter : rest.length < input.length)
      (later : Repeats step rest more last) : Repeats step input (found :: more) last

theorem repeatStep_of_repeats {α : Type} {step : List Char → Reading α}
    {input last : List Char} {found : List (List α)} (repeats : Repeats step input found last)
    (bound : List Char) (enough : input.length ≤ bound.length) :
    repeatStep step bound input = (found.flatten, last) := by
  induction repeats generalizing bound with
  | @stop input stops =>
      cases bound with
      | nil => rfl
      | cons char bound =>
          simp only [repeatStep, stops]
          rfl
  | @next input rest last found more here shorter later ih =>
      cases bound with
      | nil =>
          simp only [List.length_nil] at enough
          omega
      | cons char bound =>
          have fits : rest.length ≤ bound.length := by
            simp only [List.length_cons] at enough
            omega
          simp only [repeatStep, here, ih bound fits, List.flatten_cons]

/-! ## Steps of reading -/

section Steps

attribute [local simp] consume read

variable {first second body : Peg} {input rest last : List Char}

theorem consume_andThen {text later : List Char} (here : first.consume input = some (text, rest))
    (there : second.consume rest = some (later, last)) :
    (first.andThen second).consume input = some (text ++ later, last) := by
  rw [consume, here]
  simp only [there, Option.map_some]

theorem consume_andThen_eq_none (fails : first.consume input = none) :
    (first.andThen second).consume input = none := by
  rw [consume, fails]

theorem consume_andThen_eq_none_right {text : List Char}
    (here : first.consume input = some (text, rest)) (fails : second.consume rest = none) :
    (first.andThen second).consume input = none := by
  rw [consume, here]
  simp only [fails, Option.map_none]

theorem exists_of_consume_andThen {text : List Char}
    (consumed : (first.andThen second).consume input = some (text, last)) :
    ∃ opened rest later, first.consume input = some (opened, rest) ∧
      second.consume rest = some (later, last) ∧ text = opened ++ later := by
  rw [consume] at consumed
  split at consumed
  · cases consumed
  · next opened rest here =>
      obtain ⟨⟨later, behind⟩, there, same⟩ := Option.map_eq_some_iff.1 consumed
      cases same
      exact ⟨opened, rest, later, here, there, rfl⟩

theorem consume_orElse_of_some {reading : List Char × List Char}
    (here : first.consume input = some reading) :
    (first.orElse second).consume input = some reading := by
  rw [consume, here]

theorem consume_orElse_of_none (fails : first.consume input = none) :
    (first.orElse second).consume input = second.consume input := by
  rw [consume, fails]

theorem consume_optional_of_some {reading : List Char × List Char}
    (here : body.consume input = some reading) : body.optional.consume input = some reading := by
  rw [consume, here]

theorem consume_optional_of_none (fails : body.consume input = none) :
    body.optional.consume input = some ([], input) := by
  rw [consume, fails]

theorem consume_many {found : List (List Char)} (repeats : Repeats body.consume input found last) :
    body.many.consume input = some (found.flatten, last) := by
  rw [consume, repeatStep_of_repeats repeats input (Nat.le_refl _)]

theorem read_andThen {trees later : List Tree} (here : first.read input = some (trees, rest))
    (there : second.read (skipBlanks rest) = some (later, last)) :
    (first.andThen second).read input = some (trees ++ later, last) := by
  rw [read, here]
  simp only [there, Option.map_some]

theorem read_andThen_eq_none (fails : first.read input = none) :
    (first.andThen second).read input = none := by
  rw [read, fails]

theorem exists_of_read_andThen {trees : List Tree}
    (found : (first.andThen second).read input = some (trees, last)) :
    ∃ opened rest later, first.read input = some (opened, rest) ∧
      second.read (skipBlanks rest) = some (later, last) ∧ trees = opened ++ later := by
  rw [read] at found
  split at found
  · cases found
  · next opened rest here =>
      obtain ⟨⟨later, behind⟩, there, same⟩ := Option.map_eq_some_iff.1 found
      cases same
      exact ⟨opened, rest, later, here, there, rfl⟩

theorem read_orElse_of_some {reading : List Tree × List Char}
    (here : first.read input = some reading) :
    (first.orElse second).read input = some reading := by
  rw [read, here]

theorem read_orElse_of_none (fails : first.read input = none) :
    (first.orElse second).read input = second.read input := by
  rw [read, fails]

theorem read_optional_of_some {reading : List Tree × List Char}
    (here : body.read input = some reading) : body.optional.read input = some reading := by
  rw [read, here]

theorem read_optional_of_none (fails : body.read input = none) :
    body.optional.read input = some ([], input) := by
  rw [read, fails]

theorem read_many {found : List (List Tree)}
    (repeats : Repeats (fun input => body.read (skipBlanks input)) input found last) :
    body.many.read input = some (found.flatten, last) := by
  rw [read, repeatStep_of_repeats repeats input (Nat.le_refl _)]

theorem read_node {rule : Rule} {trees : List Tree} (here : body.read input = some (trees, last)) :
    (node rule body).read input = some ([⟨rule, [], input, trees⟩], last) := by
  rw [read, here, Option.map_some]

theorem read_leaf {rule : Rule} {text : List Char}
    (here : body.consume input = some (text, last)) :
    (leaf rule body).read input = some ([⟨rule, text, input, []⟩], last) := by
  rw [read, here, Option.map_some]

theorem read_leaf_eq_none {rule : Rule} (fails : body.consume input = none) :
    (leaf rule body).read input = none := by
  rw [read, fails, Option.map_none]

end Steps

/-! ## Characters and words -/

theorem repeats_satisfy (accepts : Char → Bool) (input : List Char) :
    Repeats (consume (.satisfy accepts)) input
      ((input.takeWhile accepts).map fun char => [char]) (input.dropWhile accepts) := by
  induction input with
  | nil => exact .stop rfl
  | cons char input ih =>
      by_cases accepted : accepts char
      · rw [List.takeWhile_cons_of_pos accepted, List.dropWhile_cons_of_pos accepted]
        exact .next (by simp [consume, accepted]) (by simp) ih
      · rw [List.takeWhile_cons_of_neg accepted, List.dropWhile_cons_of_neg accepted]
        exact .stop (by simp [consume, accepted])

theorem consume_satisfy {accepts : Char → Bool} {char : Char} (accepted : accepts char = true)
    (chars : List Char) :
    (Peg.satisfy accepts).consume (char :: chars) = some ([char], chars) := by
  rw [consume, if_pos accepted]

theorem consume_satisfy_eq_none {accepts : Char → Bool} {char : Char}
    (refused : accepts char = false) (chars : List Char) :
    (Peg.satisfy accepts).consume (char :: chars) = none := by
  rw [consume, if_neg (by simp [refused])]

theorem consume_many_satisfy (accepts : Char → Bool) (input : List Char) :
    (Peg.satisfy accepts).many.consume input =
      some (input.takeWhile accepts, input.dropWhile accepts) := by
  rw [consume_many (repeats_satisfy accepts input)]
  simp [List.flatten_eq_flatMap, List.flatMap_map]

/-- A word is read where it is the whole run of characters of words. -/
theorem consume_word {letters : List Char} (word_chars : ∀ char ∈ letters, isIdentChar char)
    (input : List Char) :
    (word letters).consume input =
      if input.takeWhile isIdentChar = letters then some (letters, input.dropWhile isIdentChar)
      else none := by
  rw [word, consume, consume]
  cases found : Text.after letters input with
  | none =>
      rw [Text.after_eq_none_iff] at found
      have differs : input.takeWhile isIdentChar ≠ letters := by
        rintro rfl
        exact found (List.takeWhile_prefix isIdentChar)
      rw [if_neg differs]
      rfl
  | some rest =>
      obtain rfl := Text.eq_append_of_after found
      rw [List.takeWhile_append_of_pos word_chars, List.dropWhile_append_of_pos word_chars]
      cases rest with
      | nil => simp [consume]
      | cons char rest =>
          by_cases goesOn : isIdentChar char <;> simp [consume, goesOn]

end Peg

end Grammar

end Stencil
