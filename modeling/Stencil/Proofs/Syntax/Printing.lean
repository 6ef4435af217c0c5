import Stencil.Config
import Stencil.Number.Decimal
import Stencil.Proofs.Grammar.Primary
import Stencil.Proofs.Number.Decimal
import Stencil.Proofs.Piece.Inside
import Stencil.Syntax

/-!
# Printing expressions

How expressions are written inside tags, and which of them can be written: the
grammar has no parentheses, so operands are literals and paths, and connectives
join comparisons from the right.
-/

namespace Stencil

open Grammar (isName isSegment literalWords)

namespace Value

/-- A quote that a string does not hold, if there is any. -/
def quote (text : List Char) : Char :=
  if '"' ∈ text then '\x27' else '"'

/-- The literal of a value; nothing for values that are no literals. -/
def print : Value → List Char
  | .nil => "nil".toList
  | .bool value => (if value then "true" else "false").toList
  | .number (.integer value _) => Decimal.writeInteger value
  | .string text => quote text.toList :: (text.toList ++ [quote text.toList])
  | _ => []

/-- The values of literals, other than doubles, inside a span. -/
inductive IsLiteral (delimiter : Delimiter) : Value → Prop
  | nil : IsLiteral delimiter .nil
  | bool (value : Bool) : IsLiteral delimiter (.bool value)
  | integer {value : Int}
      {inRange : -9223372036854775808 ≤ value ∧ value < 18446744073709551616}
      (signed : value < 9223372036854775808) :
      IsLiteral delimiter (.number (.integer value inRange))
  | string {text : String} (quotable : '"' ∉ text.toList ∨ '\x27' ∉ text.toList)
      (free : ¬ delimiter.closing <:+: text.toList) : IsLiteral delimiter (.string text)

end Value

namespace CompareOperator

/-- The ways in which an operator can be written. -/
def spellings : CompareOperator → List String
  | .unequal => ["!=", "<>"]
  | operator => [operator.text]

theorem text_mem_spellings (operator : CompareOperator) : operator.text ∈ operator.spellings := by
  cases operator <;> decide

end CompareOperator

namespace Expr

/-- The text of an expression; a negation is not written. -/
def print : Expr → List Char
  | .literal value => value.print
  | .path names => List.intercalate ['.'] (names.map String.toList)
  | .comparison operator left right =>
      left.print ++ (' ' :: (operator.text.toList ++ [' ']) ++ right.print)
  | .logic connective left right =>
      left.print ++ (' ' :: (connective.text.toList ++ [' ']) ++ right.print)
  | .not condition => condition.print

/-- Literals, and paths that do not look like literals. -/
inductive IsPrimary (delimiter : Delimiter) : Expr → Prop
  | literal {value : Value} (literal : value.IsLiteral delimiter) :
      IsPrimary delimiter (.literal value)
  | path {head : String} {segments : List String} (named : isName head.toList)
      (other : head.toList ∉ literalWords)
      (parts : ∀ segment ∈ segments, isSegment segment.toList) :
      IsPrimary delimiter (.path (head :: segments))

inductive IsComparison (delimiter : Delimiter) : Expr → Prop
  | primary {expr : Expr} (primary : expr.IsPrimary delimiter) : IsComparison delimiter expr
  | comparison {operator : CompareOperator} {left right : Expr}
      (left_primary : left.IsPrimary delimiter) (right_primary : right.IsPrimary delimiter) :
      IsComparison delimiter (.comparison operator left right)

/-- Comparisons, with connectives that take everything behind them as their right operand. -/
inductive IsCondition (delimiter : Delimiter) : Expr → Prop
  | comparison {expr : Expr} (comparison : expr.IsComparison delimiter) :
      IsCondition delimiter expr
  | logic {connective : Connective} {left right : Expr}
      (left_comparison : left.IsComparison delimiter)
      (right_condition : right.IsCondition delimiter) :
      IsCondition delimiter (.logic connective left right)

/-- The text of the values of a `when`. -/
def printValues (values : List Expr) : List Char :=
  List.intercalate [',', ' '] (values.map print)

end Expr

namespace FilterCall

def print (call : FilterCall) : List Char :=
  call.name.toList ++
    match call.argument with
    | none => []
    | some argument => ':' :: ' ' :: argument.print

/-- What stands for a filter behind an expression. -/
def printBehind (call : FilterCall) : List Char :=
  [' ', '|', ' '] ++ call.print

/-- A filter that is registered, with at most a literal or a path. -/
structure Printable (config : Config) (delimiter : Delimiter) (call : FilterCall) : Prop where
  registered : config.hasFilter call.name
  named : isName call.name.toList
  argument : ∀ argument, call.argument = some argument → argument.IsPrimary delimiter

end FilterCall

namespace Output

def print (output : Output) : List Char :=
  output.expr.print ++ output.filters.flatMap FilterCall.printBehind

structure Printable (config : Config) (delimiter : Delimiter) (output : Output) : Prop where
  comparison : output.expr.IsComparison delimiter
  filters : ∀ call ∈ output.filters, call.Printable config delimiter

end Output

/-! ## What is written fits between delimiters -/

section Holds

variable {delimiter : Delimiter}

theorem holds_of_forall_isIdentChar {text : List Char} (nonempty : text ≠ [])
    (chars : ∀ char ∈ text, Grammar.isIdentChar char) : delimiter.Holds text := by
  apply Delimiter.holds_of_solid nonempty
  · exact fun char member => Grammar.isBlank_of_isIdentChar (chars char member)
  · apply Delimiter.not_closing_infix_of_foreign
    intro char member closes
    have closer : char = '%' ∨ char = '}' := by
      cases delimiter <;> simp_all [Delimiter.closing]
    rcases closer with rfl | rfl <;> exact absurd (chars _ member) (by decide)

theorem holds_name {name : List Char} (named : isName name) : delimiter.Holds name := by
  obtain ⟨first, more, rfl, -⟩ := Grammar.exists_of_isName named
  exact holds_of_forall_isIdentChar (by simp) (Grammar.isIdentChar_of_mem_name named)

theorem holds_segment {segment : List Char} (part : isSegment segment) :
    delimiter.Holds segment := by
  refine holds_of_forall_isIdentChar ?_ (Grammar.isIdentChar_of_mem_segment part)
  rintro rfl
  cases part

theorem holds_writeInteger (value : Int) : delimiter.Holds (Decimal.writeInteger value) := by
  have digits (char : Char) (member : char ∈ Nat.toDigits 10 value.natAbs) :
      Grammar.isIdentChar char :=
    Grammar.isIdentChar_of_isDigit (Decimal.isDigit_of_mem_toDigits member)
  unfold Decimal.writeInteger
  split
  · exact holds_of_forall_isIdentChar (by simp) (List.forall_mem_cons.2 ⟨by decide, digits⟩)
  · exact holds_of_forall_isIdentChar Nat.toDigits_ne_nil digits

theorem Value.quote_not_mem {text : List Char} (quotable : '"' ∉ text ∨ '\x27' ∉ text) :
    quote text ∉ text := by
  unfold quote
  split
  · next double => exact quotable.resolve_left fun absent => absent double
  · next absent => exact absent

theorem Value.quote_cases (text : List Char) : quote text = '"' ∨ quote text = '\x27' := by
  unfold quote
  split
  · exact .inr rfl
  · exact .inl rfl

theorem Value.IsLiteral.holds {value : Value} (literal : value.IsLiteral delimiter) :
    delimiter.Holds value.print := by
  cases literal with
  | nil => exact holds_name (by decide)
  | bool value => cases value <;> exact holds_name (by decide)
  | @integer value inRange signed => exact holds_writeInteger value
  | @string text quotable free =>
      refine Delimiter.holds_quoted ?_ ?_ free
      · rcases quote_cases text.toList with isQuote | isQuote <;> rw [isQuote] <;> decide
      · rcases quote_cases text.toList with isQuote | isQuote <;> rw [isQuote] <;>
          cases delimiter <;> decide

theorem Expr.IsPrimary.holds {expr : Expr} (primary : expr.IsPrimary delimiter) :
    delimiter.Holds expr.print := by
  cases primary with
  | literal literal => exact literal.holds
  | @path head segments named other parts =>
      rw [print, List.map_cons, Text.intercalate_cons_eq]
      refine (holds_name named).append_flatMap ?_ (by cases delimiter <;> rfl) (by simp)
      intro segment member
      obtain ⟨name, here, rfl⟩ := List.mem_map.1 member
      exact holds_segment (parts name here)

theorem CompareOperator.foreign {operator : CompareOperator} :
    ∀ spelling ∈ operator.spellings,
      delimiter.isForeign (' ' :: (spelling.toList ++ [' '])) := by
  cases operator <;> cases delimiter <;> decide

theorem Connective.foreign (connective : Connective) :
    delimiter.isForeign (' ' :: (connective.text.toList ++ [' '])) := by
  cases connective <;> cases delimiter <;> rfl

theorem Expr.IsComparison.holds {expr : Expr} (comparison : expr.IsComparison delimiter) :
    delimiter.Holds expr.print := by
  cases comparison with
  | primary primary => exact primary.holds
  | @comparison operator left right left_primary right_primary =>
      exact left_primary.holds.append right_primary.holds
        (CompareOperator.foreign _ operator.text_mem_spellings) (by simp)

theorem Expr.IsCondition.holds {expr : Expr} (condition : expr.IsCondition delimiter) :
    delimiter.Holds expr.print := by
  induction condition with
  | comparison comparison => exact comparison.holds
  | @logic connective left right left_comparison right_condition ih =>
      exact left_comparison.holds.append ih connective.foreign (by simp)

theorem Expr.holds_printValues {values : List Expr} (nonempty : values ≠ [])
    (primaries : ∀ value ∈ values, value.IsPrimary delimiter) :
    delimiter.Holds (printValues values) := by
  obtain ⟨first, rest, rfl⟩ := List.exists_cons_of_ne_nil nonempty
  obtain ⟨here, later⟩ := List.forall_mem_cons.1 primaries
  rw [printValues, List.map_cons, Text.intercalate_cons_eq]
  refine here.holds.append_flatMap ?_ (by cases delimiter <;> rfl) (by simp)
  intro text member
  obtain ⟨value, isValue, rfl⟩ := List.mem_map.1 member
  exact (later value isValue).holds

variable {config : Config}

theorem FilterCall.Printable.holds {call : FilterCall}
    (printable : call.Printable config delimiter) : delimiter.Holds call.print := by
  unfold print
  cases given : call.argument with
  | none => simpa using holds_name printable.named
  | some argument =>
      exact @Delimiter.Holds.append _ _ _ [':', ' '] (holds_name printable.named)
        (printable.argument argument given).holds (by cases delimiter <;> rfl) (by simp)

theorem Output.Printable.holds {output : Output}
    (printable : output.Printable config delimiter) : delimiter.Holds output.print :=
  printable.comparison.holds.append_flatMap
    (fun call member => (printable.filters call member).holds)
    (by cases delimiter <;> rfl) (by simp)

end Holds

end Stencil
