import Mathlib
import Stencil.Proofs.Syntax.Acceptance
import Stencil.Proofs.Template.Conditional

/-!
# Conditions of any length

A condition is a chain of comparisons with connectives between them.  It is read
as it is written, grouped from the right, and its truth is that of the operands
folded from the right with the connectives.
-/

namespace Stencil

open Grammar

/-! ## The truth of a chain -/

/-- Whether a connective of two operands holds. -/
def Connective.joins : Connective → Bool → Bool → Bool
  | .and, left, right => left && right
  | .or, left, right => left || right

namespace Link

theorem eval_chain_cons (link : Link) (links : List Link) (last : Expr) (scope : Scope) :
    (chain (link :: links) last).eval scope =
      .bool (link.connective.joins (link.expr.eval scope).isTruthy
        ((chain links last).eval scope).isTruthy) := by
  rw [chain, List.foldr_cons]
  cases link.connective <;> rfl

/-- Whether a chain holds, from the truth of its operands. -/
def holds (links : List Link) (last : Expr) (scope : Scope) : Bool :=
  links.foldr
    (fun link behind => link.connective.joins (link.expr.eval scope).isTruthy behind)
    (last.eval scope).isTruthy

theorem isTruthy_chain (links : List Link) (last : Expr) (scope : Scope) :
    ((chain links last).eval scope).isTruthy = holds links last scope := by
  induction links with
  | nil => rfl
  | cons link links ih =>
      rw [eval_chain_cons, ih]
      rfl

/-! ## Chains in tags -/

theorem not_closing_infix_chainSource {links : List Link} {last : List Char}
    (free : ∀ link ∈ links, ¬ Delimiter.block.closing <:+: link.text)
    (lastFree : ¬ Delimiter.block.closing <:+: last) :
    ¬ Delimiter.block.closing <:+: chainSource links last := by
  induction links with
  | nil => exact lastFree
  | cons link links ih =>
      obtain ⟨here, later⟩ := List.forall_mem_cons.1 free
      have apart := Delimiter.not_closing_infix_append here (ih later) link.connective.foreign
        (by simp)
      rw [chainSource_cons]
      simpa using apart

end Link

namespace Template

/--
Conditions of any length.  Identifiers that are no literals are operands, and so
are operators where an operand stands; operands are comparisons, alone or with an
operator between two of them.  A chain of comparisons is read grouped from the
right, wherever it stands, and holds as the truth of its operands folded from
the right with its connectives: alone a comparison keeps its own value, and a
longer chain has a truth value.  A conditional with the chain as its condition
compiles, and is rendered as the chain decides.
-/
theorem condition_chain (config : Config) :
    (∀ name : String, isName name.toList → name.toList ∉ literalWords →
      primary.Accepts Expr.ofPrimary name.toList (.path [name])) ∧
    (∀ text expr, primary.Accepts Expr.ofPrimary text expr →
      Grammar.comparison.Accepts Expr.ofComparison text expr) ∧
    (∀ operator left right leftExpr rightExpr, primary.Accepts Expr.ofPrimary left leftExpr →
      primary.Accepts Expr.ofPrimary right rightExpr →
        Grammar.comparison.Accepts Expr.ofComparison
          (left ++ ' ' :: (CompareOperator.text operator).toList ++ ' ' :: right)
          (.comparison operator leftExpr rightExpr)) ∧
    ∀ links last expr,
      (∀ link ∈ links, Grammar.comparison.Accepts Expr.ofComparison link.text link.expr) →
      Grammar.comparison.Accepts Expr.ofComparison last expr →
        (∀ position, TagInside.condition ⟨Link.chainSource links last, position⟩ =
          .ok (Link.chain links expr)) ∧
        (∀ scope, ((Link.chain links expr).eval scope).isTruthy = Link.holds links expr scope ∧
          (links = [] → (Link.chain links expr).eval scope = expr.eval scope) ∧
          (links ≠ [] →
            (Link.chain links expr).eval scope = .bool (Link.holds links expr scope))) ∧
        ∀ condition body other bodyNodes otherNodes,
          Text.trim condition.toList = Link.chainSource links last →
          (∀ link ∈ links, ¬ Delimiter.block.closing <:+: link.text) →
          ¬ Delimiter.block.closing <:+: last →
          compile config body = .ok ⟨bodyNodes, config⟩ → body.toList.getLast? ≠ some '{' →
          compile config other = .ok ⟨otherNodes, config⟩ → other.toList.getLast? ≠ some '{' →
            ∃ template,
              compile config (conditionalSource false ⟨condition, body⟩ [] other) = .ok template ∧
              ∀ rendering, Node.renderBody config template.nodes rendering =
                if Link.holds links expr rendering.scope then
                  Node.renderBody config bodyNodes rendering
                else
                  Node.renderBody config otherNodes rendering := by
  refine ⟨fun name => Expr.accepts_name, fun text expr => Expr.accepts_of_operand,
    fun operator left right leftExpr rightExpr leftAccepted rightAccepted => ?_,
    fun links last expr accepted lastAccepted => ⟨Link.condition_chainSource accepted lastAccepted,
      fun scope => ⟨Link.isTruthy_chain links expr scope, ?_, ?_⟩, ?_⟩⟩
  · simpa using Expr.accepts_comparison operator leftAccepted rightAccepted
  · rintro rfl
    rfl
  · intro nonempty
    obtain ⟨link, links, rfl⟩ := List.exists_cons_of_ne_nil nonempty
    rw [Link.eval_chain_cons, Link.isTruthy_chain]
    rfl
  · intro condition body other bodyNodes otherNodes trimmed free lastFree compiled unbraced
      otherCompiled otherUnbraced
    have chainFree := Link.not_closing_infix_chainSource free lastFree
    have means : Guard.Means config ⟨condition, body⟩ (Link.chain links expr) bodyNodes :=
      { condition := by rw [trimmed, Link.condition_chainSource accepted lastAccepted]
        free := Delimiter.not_closing_infix_of_trim (trimmed ▸ chainFree)
        body := (compile_eq_ok_iff.1 compiled).1
        unbraced }
    have whole := Conditional.compile_conditionalSource false means .nil
      (compile_eq_ok_iff.1 otherCompiled).1 otherUnbraced (by simp)
    refine ⟨⟨_, config⟩, compile_eq_ok_iff.2 ⟨whole, rfl⟩, fun rendering => ?_⟩
    rw [Node.renderBody_singleton, ← Link.isTruthy_chain]
    rfl

/-- Operators as operands, and a chain whose truth would be another if it were grouped from the
left. -/
theorem condition_chain_operators :
    let links : List Link :=
      [⟨"trueish".toList, .path ["trueish"], .or⟩, ⟨"and".toList, .path ["and"], .and⟩]
    let expr : Expr := .comparison .contains (.path ["contains"]) (.path ["or"])
    TagInside.condition ⟨"trueish or and and contains contains or".toList, 0⟩ =
        .ok (.logic .or (.path ["trueish"]) (.logic .and (.path ["and"]) expr)) ∧
      ∃ template,
        compile .empty (conditionalSource false
          ⟨" trueish or and and contains contains or", "a"⟩ [] "b") = .ok template ∧
        ∀ rendering, Node.renderBody .empty template.nodes rendering =
          if Link.holds links expr rendering.scope then
            Node.renderBody .empty [.text "a"] rendering
          else
            Node.renderBody .empty [.text "b"] rendering := by
  intro links expr
  obtain ⟨name, operand, comparison, chain⟩ := condition_chain .empty
  have accepted : ∀ link ∈ links,
      Grammar.comparison.Accepts Expr.ofComparison link.text link.expr :=
    List.forall_mem_cons.2 ⟨operand _ _ (name "trueish" (by decide) (by decide)),
      List.forall_mem_singleton.2 (operand _ _ (name "and" (by decide) (by decide)))⟩
  have lastAccepted :
      Grammar.comparison.Accepts Expr.ofComparison "contains contains or".toList expr :=
    comparison .contains _ _ _ _ (name "contains" (by decide) (by decide))
      (name "or" (by decide) (by decide))
  obtain ⟨read, -, rendered⟩ := chain links _ expr accepted lastAccepted
  exact ⟨read 0, rendered _ "a" "b" [.text "a"] [.text "b"] (by decide) (by decide) (by decide)
    (by cbv) (by decide) (by cbv) (by decide)⟩

end Template

end Stencil
