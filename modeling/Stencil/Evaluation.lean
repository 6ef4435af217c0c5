import Stencil.Config
import Stencil.Syntax

/-!
# Evaluation

The values of expressions and outputs in a scope.
-/

namespace Stencil

namespace CompareOperator

/-- Whether an operator holds between two values. -/
def holds (operator : CompareOperator) (left right : Value) : Bool :=
  match operator with
  | .equal => left.equals right
  | .unequal => !left.equals right
  | .less => left.order? right == some .lt
  | .lessOrEqual => left.order? right == some .lt || left.order? right == some .eq
  | .greater => left.order? right == some .gt
  | .greaterOrEqual => left.order? right == some .gt || left.order? right == some .eq
  | .contains => left.contains right

end CompareOperator

namespace Expr

/--
The value of an expression.  A path without a value counts as nil, and objects
that display a text are compared as this text.
-/
def eval (scope : Scope) : Expr → Value
  | .literal value => value
  | .path names => (scope.lookup? names).getD .nil
  | .comparison operator left right =>
      .bool (operator.holds (left.eval scope).comparable (right.eval scope).comparable)
  | .logic .and left right => .bool ((left.eval scope).isTruthy && (right.eval scope).isTruthy)
  | .logic .or left right => .bool ((left.eval scope).isTruthy || (right.eval scope).isTruthy)
  | .not condition => .bool !(condition.eval scope).isTruthy

/-- The value of an expression, unless it is a path without one. -/
def eval? (scope : Scope) : Expr → Option Value
  | .path names => scope.lookup? names
  | expr => some (expr.eval scope)

end Expr

namespace FilterCall

/-- The value that comes out of a filter; one that is not registered changes nothing. -/
def apply (config : Config) (scope : Scope) (value : Value) (call : FilterCall) :
    Except Fault Value :=
  match config.filter? call.name with
  | none => .ok value
  | some filter => filter scope.now value (call.argument.map (·.eval scope))

end FilterCall

namespace Output

/-- The value of an output; none, whatever its filters, if it is a path without a value. -/
def eval? (config : Config) (scope : Scope) (output : Output) : Except Fault (Option Value) :=
  match output.expr.eval? scope with
  | none => .ok none
  | some value => (output.filters.foldlM (FilterCall.apply config scope) value).map some

end Output

end Stencil
