import Stencil.Grammar.Tag
import Stencil.Problem
import Stencil.Syntax
import Stencil.Text.Search

/-!
# Syntax from trees

The trees of the insides of tags are turned into expressions, outputs and
filters.  A tree carries the text from the place on where it began, so the byte
position of a problem is the position `stop` at which the inside of the tag
ends, less the width of that text.
-/

namespace Stencil

/-- A result, or a problem with its byte position in the source. -/
abbrev Checked (α : Type) :=
  Except (Located Problem) α

namespace Checked

/-- Reports a problem at a byte position. -/
def fail {α : Type} (problem : Problem) (position : Nat) : Checked α :=
  .error ⟨problem, position⟩

end Checked

open Grammar (Tree)

/-- The byte position of a tree, when the inside of the tag ends at `stop`. -/
def Grammar.Tree.position (tree : Tree) (stop : Nat) : Nat :=
  stop - Text.width tree.start

namespace Expr

/-- The integer that a literal denotes, if it fits in signed 64 bits. -/
def integerLiteral? (text : List Char) : Option Int :=
  (Decimal.readInteger? text).bind fun value =>
    if -9223372036854775808 ≤ value ∧ value < 9223372036854775808 then some value else none

def ofLiteral (stop : Nat) : Tree → Checked Value
  | ⟨.int, text, start, _⟩ =>
      match integerLiteral? text with
      | some value => .ok (.ofInt value)
      | none => Checked.fail (.integerOutOfBounds (String.ofList text)) (stop - Text.width start)
  | ⟨.float, text, start, _⟩ =>
      match Double.read? .double text with
      | some value => .ok (.ofDouble value)
      | none => Checked.fail .strayTree (stop - Text.width start)
  | ⟨.string, text, _, _⟩ => .ok (.ofText (text.drop 1).dropLast)
  | ⟨.boolean, text, _, _⟩ => .ok (.bool (text == "true".toList))
  | ⟨.nil, _, _, _⟩ => .ok .nil
  | tree => Checked.fail .strayTree (tree.position stop)

/-- The expression of a literal or a path. -/
def ofPrimary (stop : Nat) : Tree → Checked Expr
  | ⟨.primary, _, _, [⟨.literal, _, _, [tree]⟩]⟩ => (ofLiteral stop tree).map .literal
  | ⟨.primary, _, _, [⟨.path, text, _, _⟩]⟩ =>
      .ok (.path ((Text.splitPath text).map String.ofList))
  | tree => Checked.fail .strayTree (tree.position stop)

def operator? : Tree → Option CompareOperator
  | ⟨.equal, _, _, _⟩ => some .equal
  | ⟨.unequal, _, _, _⟩ => some .unequal
  | ⟨.lessOrEqual, _, _, _⟩ => some .lessOrEqual
  | ⟨.greaterOrEqual, _, _, _⟩ => some .greaterOrEqual
  | ⟨.less, _, _, _⟩ => some .less
  | ⟨.greater, _, _, _⟩ => some .greater
  | ⟨.contains, _, _, _⟩ => some .contains
  | _ => none

def connective? : Tree → Option Connective
  | ⟨.and, _, _, _⟩ => some .and
  | ⟨.or, _, _, _⟩ => some .or
  | _ => none

/-- The expression of a comparison, or of its only operand. -/
def ofComparison (stop : Nat) : Tree → Checked Expr
  | ⟨.comparison, _, _, [operand]⟩ => ofPrimary stop operand
  | ⟨.comparison, _, _, [left, middle, right]⟩ => do
      let left ← ofPrimary stop left
      let right ← ofPrimary stop right
      match operator? middle with
      | some operator => return .comparison operator left right
      | none => Checked.fail .strayTree (middle.position stop)
  | tree => Checked.fail .strayTree (tree.position stop)

/--
The expression of comparisons with connectives between them.  The connectives
have no precedence: each takes everything behind it as its right operand.
-/
def ofComparisons (stop : Nat) : List Tree → Checked Expr
  | [] => Checked.fail .strayTree stop
  | [only] => ofComparison stop only
  | left :: middle :: rest => do
      let left ← ofComparison stop left
      let right ← ofComparisons stop rest
      match connective? middle with
      | some connective => return .logic connective left right
      | none => Checked.fail .strayTree (middle.position stop)

def ofCondition (stop : Nat) : Tree → Checked Expr
  | ⟨.condition, _, _, comparisons⟩ => ofComparisons stop comparisons
  | tree => Checked.fail .strayTree (tree.position stop)

end Expr

namespace FilterCall

/-- A filter and its argument; `known` tells which filters are registered. -/
def ofTree (known : String → Bool) (stop : Nat) : Tree → Checked FilterCall
  | ⟨.filter, _, start, ⟨.ident, text, _, _⟩ :: arguments⟩ => do
      let name := String.ofList text
      let argument ←
        match arguments with
        | [] => pure none
        | [argument] => some <$> Expr.ofPrimary stop argument
        | _ => Checked.fail .strayTree (stop - Text.width start)
      if known name then
        return ⟨name, argument⟩
      else
        Checked.fail (.unknownFilter name) (stop - Text.width start)
  | tree => Checked.fail .strayTree (tree.position stop)

/-- The filters up to the end of a tag. -/
def ofTrees (known : String → Bool) (stop : Nat) : List Tree → Checked (List FilterCall)
  | [⟨.endOfTag, _, _, _⟩] => .ok []
  | [] => Checked.fail .strayTree stop
  | tree :: trees => do
      let call ← ofTree known stop tree
      let calls ← ofTrees known stop trees
      return call :: calls

end FilterCall

/-- The output of an expression and the filters behind it. -/
def Output.ofTrees (known : String → Bool) (stop : Nat) : List Tree → Checked Output
  | comparison :: filters => do
      let expr ← Expr.ofComparison stop comparison
      let filters ← FilterCall.ofTrees known stop filters
      return ⟨expr, filters⟩
  | [] => Checked.fail .strayTree stop

/-! ## Insides of tags -/

/-- The inside of a tag with its byte position in the source. -/
structure TagInside where
  text : List Char
  position : Nat

namespace TagInside

def stop (inside : TagInside) : Nat :=
  inside.position + Text.width inside.text

/-- The parts of the inside by a rule of the grammar. -/
def parse (inside : TagInside) (grammar : Grammar.Peg) : Checked (List Tree) :=
  match grammar.parse inside.text with
  | .ok [⟨_, _, _, children⟩] => .ok children
  | .ok _ => Checked.fail .strayTree inside.position
  | .error attempts =>
      Checked.fail (.expected attempts.expected) (inside.stop - attempts.remaining)

def output (known : String → Bool) (inside : TagInside) : Checked Output := do
  Output.ofTrees known inside.stop (← inside.parse Grammar.outputTag)

def condition (inside : TagInside) : Checked Expr := do
  match ← inside.parse Grammar.conditionTag with
  | [tree, _] => Expr.ofCondition inside.stop tree
  | _ => Checked.fail .strayTree inside.position

def subject (inside : TagInside) : Checked Expr := do
  match ← inside.parse Grammar.caseTag with
  | [tree, _] => Expr.ofPrimary inside.stop tree
  | _ => Checked.fail .strayTree inside.position

/-- The values before the end of a when tag; connectives between them say nothing. -/
def valuesOf (stop : Nat) : List Tree → Checked (List Expr)
  | [] | [⟨.endOfTag, _, _, _⟩] => .ok []
  | ⟨.or, _, _, _⟩ :: trees => valuesOf stop trees
  | tree :: trees => do
      let value ← Expr.ofPrimary stop tree
      let values ← valuesOf stop trees
      return value :: values

def values (inside : TagInside) : Checked (List Expr) := do
  valuesOf inside.stop (← inside.parse Grammar.whenTag)

/-- The inside as the name that a capture sets. -/
def captureName (inside : TagInside) : Checked String := do
  match ← inside.parse Grammar.captureTag with
  | [⟨.ident, text, _, _⟩, _] => return String.ofList text
  | _ => Checked.fail .strayTree inside.position

/-- The inside as the name and the value of an assignment. -/
def assignment (known : String → Bool) (inside : TagInside) : Checked (String × Output) := do
  match ← inside.parse Grammar.assignTag with
  | ⟨.ident, text, _, _⟩ :: trees =>
      return (String.ofList text, ← Output.ofTrees known inside.stop trees)
  | _ => Checked.fail .strayTree inside.position

end TagInside

end Stencil
