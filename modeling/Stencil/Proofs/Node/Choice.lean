import Stencil.Proofs.Value.Equality
import Stencil.Rendering

/-!
# Cases as conditionals

A case chooses among its parts as a conditional does whose conditions compare
the subject with the values of each part.  The conditional asks for the subject
again at every comparison, and with the operands the other way round.
-/

namespace Stencil

namespace Expr

/--
Whether a subject equals one of some values, as a condition: comparisons that
are joined from the right.  There is at least one value in what can be written.
-/
def equalsAny (subject : Expr) : List Expr → Expr
  | [] => .literal (.bool false)
  | [value] => .comparison .equal subject value
  | value :: values => .logic .or (.comparison .equal subject value) (subject.equalsAny values)

variable (scope : Scope) (subject : Expr)

theorem isTruthy_eval_equal (value : Expr) :
    ((comparison .equal subject value).eval scope).isTruthy =
      (value.eval scope).comparable.equals (subject.eval scope).comparable :=
  Value.equals_comm _ _

theorem isTruthy_eval_equalsAny (values : List Expr) :
    ((subject.equalsAny values).eval scope).isTruthy =
      values.any fun value =>
        (value.eval scope).comparable.equals (subject.eval scope).comparable := by
  induction values with
  | nil => rfl
  | cons value values ih =>
      cases values with
      | nil =>
          rw [equalsAny, isTruthy_eval_equal, List.any_cons, List.any_nil, Bool.or_false]
      | cons next values =>
          rw [List.any_cons, ← ih, ← isTruthy_eval_equal]
          rfl

end Expr

namespace When

/-- A part of a case as one of a conditional. -/
def toBranch {ν : Type} (subject : Expr) (case : When ν) : Branch ν :=
  ⟨some (subject.equalsAny case.values), case.body⟩

theorem applies_toBranch {ν : Type} (scope : Scope) (subject : Expr) (case : When ν) :
    (case.toBranch subject).applies scope = case.applies scope (subject.eval scope) :=
  subject.isTruthy_eval_equalsAny scope case.values

end When

namespace Node

variable (config : Config) (subject : Expr)

/-- The branches that choose as a case does: the part for all other values is the `else`. -/
def branchesOfCase (cases : List (When Node)) (otherwise : Option (List Node)) :
    List (Branch Node) :=
  cases.map (When.toBranch subject) ++ (otherwise.map fun body => ⟨none, body⟩).toList

/-- The branches of parts, in front of others, of which one is chosen where no part applies. -/
theorem renderBranches_map_toBranch (cases : List (When Node)) (others : List (Branch Node))
    (rendering : Rendering) :
    renderBranches config (cases.map (When.toBranch subject) ++ others) rendering =
      (renderCases config (subject.eval rendering.scope) cases rendering).getD
        (renderBranches config others rendering) := by
  induction cases with
  | nil => rfl
  | cons case cases ih =>
      have applies := When.applies_toBranch rendering.scope subject case
      rw [List.map_cons, List.cons_append, When.toBranch, renderBranches, renderCases]
      rw [When.toBranch] at applies
      rw [applies, ih]
      split <;> rfl

/--
A case is rendered as a conditional: with the conditions `subject == value`
joined by `or` for the values of each part, and an `else` for all other values.
-/
theorem render_switch_eq_conditional (cases : List (When Node))
    (otherwise : Option (List Node)) (rendering : Rendering) :
    render config (.switch subject cases otherwise) rendering =
      render config (.conditional (branchesOfCase subject cases otherwise)) rendering := by
  have chosen := renderBranches_map_toBranch config subject cases
  cases otherwise with
  | none =>
      have last : renderBranches config [] rendering = .ok rendering := rfl
      rw [render, render, branchesOfCase, Option.map_none, Option.toList_none, chosen, last]
  | some body =>
      have last : renderBranches config [⟨none, body⟩] rendering =
          renderBody config body rendering := rfl
      rw [render, render, branchesOfCase, Option.map_some, Option.toList_some, chosen, last]

end Node

end Stencil
