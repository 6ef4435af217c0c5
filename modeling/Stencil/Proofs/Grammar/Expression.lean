import Stencil.Proofs.Grammar.Place
import Stencil.Proofs.Syntax.Printing
import Stencil.Proofs.Text.Path
import Stencil.Syntax.OfTree

/-!
# Reading operands and operators

What it is for a text to be read as an expression, and the operands that were
printed, which are read back before whatever they could not go on with.
-/

namespace Stencil

open Grammar

namespace Grammar

/-- A tree stands for a value, wherever the tag stands that it is part of. -/
def Tree.Means {α : Type} (meaning : Nat → Tree → Checked α) (tree : Tree) (value : α) : Prop :=
  ∀ stop, meaning stop tree = .ok value

/-- A grammar reads a text up to a rest, as a tree that stands for a value. -/
def Peg.ReadsAs {α : Type} (grammar : Peg) (meaning : Nat → Tree → Checked α)
    (input rest : List Char) (value : α) : Prop :=
  ∃ tree, grammar.read input = some ([tree], rest) ∧ tree.Means meaning value

/-- A grammar reads a text to its end, apart from blanks, as a tree that stands for a value. -/
def Peg.Accepts {α : Type} (grammar : Peg) (meaning : Nat → Tree → Checked α) (text : List Char)
    (value : α) : Prop :=
  ∃ rest, grammar.ReadsAs meaning text rest value ∧ skipBlanks rest = []

/-- Items that are written one after the other are read by a repetition. -/
theorem Peg.exists_read_many {α β : Type} {body : Peg} {write : β → List Char} {value : β → α}
    {meaning : Nat → Tree → Checked α} {items : List β} (stops : body.read [] = none)
    (solid : ∀ item, ∃ char ∈ write item, isTagBlank char = false)
    (reads : ∀ item ∈ items, ∀ later : List β, ∃ last,
      body.ReadsAs meaning (skipBlanks (write item ++ later.flatMap write)) last (value item) ∧
        skipBlanks last = skipBlanks (later.flatMap write)) :
    ∃ trees, List.Forall₂ (Tree.Means meaning) trees (items.map value) ∧
      ∀ input, skipBlanks input = skipBlanks (items.flatMap write) →
        ∃ behind, body.many.read input = some (trees, behind) ∧ skipBlanks behind = [] := by
  suffices repeats : ∃ trees, List.Forall₂ (Tree.Means meaning) trees (items.map value) ∧
      ∀ input, skipBlanks input = skipBlanks (items.flatMap write) →
        ∃ behind, Repeats (fun input => body.read (skipBlanks input)) input
          (trees.map fun tree => [tree]) behind ∧ skipBlanks behind = [] by
    obtain ⟨trees, means, repeats⟩ := repeats
    refine ⟨trees, means, fun input same => ?_⟩
    obtain ⟨behind, more, whole⟩ := repeats input same
    refine ⟨behind, ?_, whole⟩
    rw [read_many more]
    simp [← List.flatMap_def]
  induction items with
  | nil =>
      refine ⟨[], .nil, fun input same => ⟨input, .stop ?_, same⟩⟩
      rw [same]
      exact stops
  | cons item items ih =>
      obtain ⟨here, later⟩ := List.forall_mem_cons.1 reads
      obtain ⟨trees, means, repeats⟩ := ih later
      obtain ⟨last, ⟨tree, found, meansItem⟩, left⟩ := here items
      refine ⟨tree :: trees, .cons meansItem means, fun input same => ?_⟩
      rw [List.flatMap_cons] at same
      have shorter : last.length < input.length := by
        -- What is left begins behind the item, so it is not all of the input.
        have inside := (spec_of_read body List.suffix_rfl found).1
        obtain ⟨char, member, nonblank⟩ := solid item
        have taken := length_lt_skipBlanks_append member nonblank (items.flatMap write)
        have whole := length_skipBlanks_le (items.flatMap write)
        have skipped := length_skipBlanks_le input
        have fewer : last.length < (skipBlanks (write item ++ items.flatMap write)).length := by
          refine lt_of_le_of_ne inside.length_le fun equal => ?_
          rw [inside.eq_of_length equal, skipBlanks_skipBlanks] at left
          rw [left] at taken
          omega
        rw [same] at skipped
        omega
      obtain ⟨behind, more, ends⟩ := repeats last left
      exact ⟨behind, .next (same ▸ found) shorter more, ends⟩

/-- Nothing but blanks can stand directly behind a part. -/
def Spaced (back : List Char) : Prop :=
  ∀ char, back.head? = some char → isTagBlank char = true

theorem spaced_cons {char : Char} (blank : isTagBlank char = true) (back : List Char) :
    Spaced (char :: back) := by
  intro head same
  cases same
  exact blank

/-- What may follow an expression behind a blank: nothing that the expression could go on with. -/
structure Apart (back : List Char) : Prop where
  spaced : Spaced back
  noOperator : comparisonOperator.read (skipBlanks back) = none
  noArgument : (char ':').read (skipBlanks back) = none

theorem apart_nil : Apart [] where
  spaced := by simp [Spaced]
  noOperator := rfl
  noArgument := rfl

theorem read_char_eq_none {expected first : Char} (other : first ≠ expected)
    (chars : List Char) : (char expected).read (first :: chars) = none := by
  simp [char, Peg.read, Peg.consume, other]

theorem read_char (expected : Char) (chars : List Char) :
    (char expected).read (expected :: chars) = some ([], chars) := by
  simp [char, Peg.read, Peg.consume]

theorem comparisonOperator_read_eq_none {first : Char} (other : first ∉ ['=', '!', '<', '>', 'c'])
    (chars : List Char) : comparisonOperator.read (first :: chars) = none := by
  simp only [List.mem_cons, List.not_mem_nil, or_false, not_or] at other
  simp [comparisonOperator, word, Peg.read, Peg.consume, Text.after, eq_comm, other]

/-- The blank behind an expression is followed by something that is no part of it. -/
theorem apart_space {first : Char} (other : first ∉ ['=', '!', '<', '>', 'c', ':'])
    (solid : isTagBlank first = false) (chars : List Char) : Apart (' ' :: first :: chars) where
  spaced := spaced_cons rfl _
  noOperator := by
    rw [skipBlanks_space, skipBlanks_cons_of_not_blank solid]
    exact comparisonOperator_read_eq_none (by simp_all) chars
  noArgument := by
    rw [skipBlanks_space, skipBlanks_cons_of_not_blank solid]
    exact read_char_eq_none (by simp_all) chars

theorem isTagBlank_of_isBlank {char : Char} (solid : Text.isBlank char = false) :
    isTagBlank char = false := by
  cases blank : isTagBlank char with
  | false => rfl
  | true =>
      simp only [isTagBlank, Bool.or_eq_true, decide_eq_true_eq] at blank
      rcases blank with ((rfl | rfl) | rfl) | rfl <;> exact absurd solid (by decide)

theorem skipBlanks_of_holds {delimiter : Delimiter} {text : List Char}
    (holds : delimiter.Holds text) (rest : List Char) :
    skipBlanks (text ++ rest) = text ++ rest := by
  obtain ⟨first, chars, rfl, solid⟩ := holds.exists_cons
  exact skipBlanks_cons_of_not_blank (isTagBlank_of_isBlank solid) (chars ++ rest)

end Grammar

variable {delimiter : Delimiter}

/-! ## Operands -/

theorem isInteger_writeInteger (value : Int) : IsInteger (Decimal.writeInteger value) := by
  have digits (char : Char) (member : char ∈ Nat.toDigits 10 value.natAbs) : char.isDigit = true :=
    Decimal.isDigit_of_mem_toDigits member
  unfold Decimal.writeInteger
  split
  · exact .negative Nat.toDigits_ne_nil digits
  · exact .natural Nat.toDigits_ne_nil digits

theorem Expr.integerLiteral?_writeInteger {value : Int} (above : -9223372036854775808 ≤ value)
    (below : value < 9223372036854775808) :
    integerLiteral? (Decimal.writeInteger value) = some value := by
  rw [integerLiteral?, Decimal.readInteger?_writeInteger, Option.bind_some,
    if_pos ⟨above, below⟩]

theorem Value.IsLiteral.reads {value : Value} (literal : value.IsLiteral delimiter)
    {rest : List Char} (detached : Detached rest) :
    anyLiteral.ReadsAs Expr.ofLiteral (value.print ++ rest) rest value := by
  cases literal with
  | nil => exact ⟨_, read_nil detached.wordEnds, fun stop => rfl⟩
  | bool value =>
      cases value with
      | false => exact ⟨_, read_boolean (by decide) detached.wordEnds (by decide), fun stop => rfl⟩
      | true => exact ⟨_, read_boolean (by decide) detached.wordEnds (by decide), fun stop => rfl⟩
  | @integer value inRange signed =>
      refine ⟨_, read_integer (isInteger_writeInteger value) detached, fun stop => ?_⟩
      have found := Expr.integerLiteral?_writeInteger inRange.1 signed
      rw [Expr.ofLiteral, print, found]
      exact congrArg Except.ok (ofInt_eq inRange)
  | @string text quotable free =>
      have found := read_quoted (quote_cases text.toList) (quote_not_mem quotable) rest
      refine ⟨_, by simpa [print] using found, fun stop => ?_⟩
      simp [Expr.ofLiteral, ofText]

theorem Expr.IsPrimary.reads {expr : Expr} (isPrimary : expr.IsPrimary delimiter)
    {rest : List Char} (detached : Detached rest) :
    primary.ReadsAs ofPrimary (expr.print ++ rest) rest expr := by
  cases isPrimary with
  | literal literal =>
      obtain ⟨tree, found, meaning⟩ := literal.reads detached
      refine ⟨_, read_primary_of_literal found, fun stop => ?_⟩
      rw [ofPrimary, meaning stop]
      rfl
  | @path head segments named other parts =>
      have letters : print (.path (head :: segments)) =
          pathLetters head.toList (segments.map String.toList) := by
        rw [print, List.map_cons, Text.intercalate_cons_eq]
        rfl
      have partsRead : ∀ segment ∈ segments.map String.toList, isSegment segment := by
        simpa using parts
      have found := read_primary_path named other partsRead detached
      rw [← letters] at found
      have points : ∀ name ∈ (head :: segments).map String.toList, '.' ∉ name := by
        intro name member
        apply point_not_mem_of_forall_isIdentChar
        rcases List.mem_cons.1 member with rfl | later
        · exact isIdentChar_of_mem_name named
        · obtain ⟨segment, here, rfl⟩ := List.mem_map.1 later
          exact isIdentChar_of_mem_segment (parts segment here)
      have names : Text.splitPath (print (.path (head :: segments))) =
          (head :: segments).map String.toList :=
        Text.splitPath_intercalate (by simp) points
      refine ⟨_, found, fun stop => ?_⟩
      simp [ofPrimary, names]

/-! ## Operators -/

section Spelling

variable {operator : CompareOperator} {spelling : String} (written : spelling ∈ operator.spellings)

include written

theorem CompareOperator.reads (rest : List Char) :
    ∃ tree, comparisonOperator.read (spelling.toList ++ ' ' :: rest) =
      some ([tree], ' ' :: rest) ∧ Expr.operator? tree = some operator := by
  cases operator with
  | unequal => rcases List.mem_pair.1 written with rfl | rfl <;> exact ⟨_, rfl, rfl⟩
  | _ =>
      cases List.mem_singleton.1 written
      exact ⟨_, rfl, rfl⟩

theorem CompareOperator.skipBlanks_spelling (rest : List Char) :
    skipBlanks (spelling.toList ++ rest) = spelling.toList ++ rest := by
  cases operator with
  | unequal => rcases List.mem_pair.1 written with rfl | rfl <;> rfl
  | _ =>
      cases List.mem_singleton.1 written
      rfl

end Spelling

theorem Connective.reads (connective : Connective) (rest : List Char) :
    ∃ tree, (Grammar.and.orElse Grammar.or).read (connective.text.toList ++ ' ' :: rest) =
      some ([tree], ' ' :: rest) ∧ Expr.connective? tree = some connective := by
  cases connective <;> exact ⟨_, rfl, rfl⟩

theorem Connective.skipBlanks_text (connective : Connective) (rest : List Char) :
    skipBlanks (connective.text.toList ++ rest) = connective.text.toList ++ rest := by
  cases connective <;> rfl

theorem Connective.apart (connective : Connective) (rest : List Char) :
    Apart (' ' :: (connective.text.toList ++ rest)) := by
  cases connective <;> exact apart_space (by decide) (by decide) _

end Stencil
