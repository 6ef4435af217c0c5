import Stencil.Proofs.Grammar.Yield
import Stencil.Syntax.OfTree

/-!
# Conditions by stacks

The operands and the connectives of a condition can be put on two stacks and
joined from the top on.  Both stacks are used up, and the expression is the same
as that of the recursion over the trees.
-/

namespace Stencil

open Grammar (Tree)

/-- The operands and the connectives of a condition that wait, the last ones on top. -/
structure Stacks where
  operands : List Expr
  connectives : List Connective

namespace Stacks

def empty : Stacks :=
  ⟨[], []⟩

/-- Puts the tree of a condition on the stack where it belongs. -/
def push (stop : Nat) (waiting : Stacks) (tree : Tree) : Checked Stacks :=
  match Expr.connective? tree with
  | some connective => .ok { waiting with connectives := connective :: waiting.connectives }
  | none =>
      (Expr.ofComparison stop tree).map fun operand =>
        { waiting with operands := operand :: waiting.operands }

/-- Joins an expression to what is on top as long as neither stack is empty; with what is left. -/
def unwind (expr : Expr) : List Expr → List Connective → Expr × Stacks
  | operand :: operands, connective :: connectives =>
      unwind (.logic connective operand expr) operands connectives
  | operands, connectives => (expr, ⟨operands, connectives⟩)

/-- The expression of all that is on the stacks, from the topmost operand on. -/
def finish (stop : Nat) (waiting : Stacks) : Checked (Expr × Stacks) :=
  match waiting.operands with
  | [] => Checked.fail .strayTree stop
  | last :: operands => .ok (unwind last operands waiting.connectives)

/-- The expression of comparisons and connectives, and what is left on the stacks. -/
def ofTrees (stop : Nat) (trees : List Tree) : Checked (Expr × Stacks) :=
  trees.foldlM (push stop) empty >>= finish stop

theorem push_of_isConnective {tree : Tree} (connects : tree.IsConnective) (stop : Nat)
    (waiting : Stacks) :
    ∃ connective, Expr.connective? tree = some connective ∧
      waiting.push stop tree =
        .ok { waiting with connectives := connective :: waiting.connectives } := by
  obtain ⟨text, start, rfl⟩ | ⟨text, start, rfl⟩ := connects <;> exact ⟨_, rfl, rfl⟩

theorem push_of_isComparison {tree : Tree} (comparison : tree.IsComparison) (stop : Nat)
    (waiting : Stacks) :
    waiting.push stop tree = (Expr.ofComparison stop tree).map fun operand =>
      { waiting with operands := operand :: waiting.operands } := by
  cases comparison <;> rfl

theorem ofComparisons_join {left connective : Tree} {rest : List Tree} {joint : Connective}
    (known : Expr.connective? connective = some joint) (others : Tree.AreComparisons rest)
    (stop : Nat) :
    Expr.ofComparisons stop (left :: connective :: rest) = do
      let operand ← Expr.ofComparison stop left
      let expr ← Expr.ofComparisons stop rest
      return .logic joint operand expr := by
  cases others <;> simp only [Expr.ofComparisons, known]

/-- What is on the stacks is joined to the expression of the trees that follow. -/
theorem foldlM_push_bind_finish {trees : List Tree} (comparisons : Tree.AreComparisons trees)
    (stop : Nat) (waiting : Stacks) :
    (trees.foldlM (push stop) waiting >>= finish stop) =
      (Expr.ofComparisons stop trees).map fun expr =>
        unwind expr waiting.operands waiting.connectives := by
  induction comparisons generalizing waiting with
  | @single tree comparison =>
      rw [List.foldlM_cons, push_of_isComparison comparison, Expr.ofComparisons]
      cases Expr.ofComparison stop tree <;> rfl
  | @join left connective rest comparison connects others ih =>
      obtain ⟨joint, known, -⟩ := push_of_isConnective connects stop waiting
      rw [List.foldlM_cons, push_of_isComparison comparison, ofComparisons_join known others]
      cases Expr.ofComparison stop left with
      | error failure => rfl
      | ok operand =>
          obtain ⟨other, same, pushed⟩ := push_of_isConnective connects stop
            { waiting with operands := operand :: waiting.operands }
          obtain rfl : other = joint := Option.some.inj (same.symm.trans known)
          have later := ih ⟨operand :: waiting.operands, other :: waiting.connectives⟩
          change ((connective :: rest).foldlM (push stop) _ >>= finish stop) = _
          rw [List.foldlM_cons, pushed]
          refine later.trans ?_
          cases Expr.ofComparisons stop rest <;> rfl

/-- The operands and connectives of a condition are joined until both stacks are empty. -/
theorem ofTrees_eq {trees : List Tree} (comparisons : Tree.AreComparisons trees) (stop : Nat) :
    ofTrees stop trees = (Expr.ofComparisons stop trees).map fun expr => (expr, empty) :=
  foldlM_push_bind_finish comparisons stop empty

/-- Both stacks of a condition are used up by its expression. -/
theorem yields_condition : Grammar.condition.YieldsOne fun tree => ∃ start children,
    tree = ⟨.condition, [], start, children⟩ ∧ ∀ stop,
      ofTrees stop children = (Expr.ofCondition stop tree).map fun expr => (expr, empty) := by
  refine Grammar.yields_condition.imp fun tree isCondition => ?_
  obtain ⟨comparisons⟩ := isCondition
  exact ⟨_, _, rfl, ofTrees_eq comparisons⟩

end Stacks

end Stencil
