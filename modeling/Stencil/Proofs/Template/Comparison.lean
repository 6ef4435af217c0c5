import Stencil.Proofs.Template.Pipeline
import Stencil.Proofs.Value.Equality
import Stencil.Proofs.Value.Order

/-!
# Comparisons from both sides

What a comparison of two operands says is what its mirror image says of them the
other way round, whatever their kinds.  Where they have an order just one of
less, greater and neither holds, and where they have none nothing about their
order does.
-/

namespace Stencil

open Grammar (primary)

/-! ## Operators -/

namespace CompareOperator

/-- The operators that do not ask for an order of their own, each with its mirror image. -/
def mirrored : List (CompareOperator × CompareOperator) :=
  [(.less, .greater), (.greater, .less), (.lessOrEqual, .greaterOrEqual),
    (.greaterOrEqual, .lessOrEqual), (.equal, .equal), (.unequal, .unequal)]

/-- The operators that ask for an order. -/
def ordering : List CompareOperator :=
  [.less, .lessOrEqual, .greater, .greaterOrEqual]

theorem holds_mirrored (left right : Value) :
    ∀ pair ∈ mirrored, pair.1.holds left right = pair.2.holds right left := by
  have order := Value.order?_swap left right
  have equality := Value.equals_comm left right
  simp only [mirrored, List.forall_mem_cons, holds, order, equality]
  rcases left.order? right with _ | _ | _ | _ <;> simp

theorem holds_of_order? {left right : Value} {order : Ordering}
    (ordered : left.order? right = some order) :
    [less.holds left right, greater.holds left right,
      lessOrEqual.holds left right && greaterOrEqual.holds left right].count true = 1 := by
  simp only [holds, ordered]
  cases order <;> rfl

theorem holds_of_unordered {left right : Value} (unordered : left.order? right = none) :
    ∀ operator ∈ ordering, operator.holds left right = false := by
  simp [ordering, holds, unordered]

end CompareOperator

/-! ## Comparisons in outputs -/

/-- A text that is read as an operand, with nothing around it, and does not close an output. -/
structure IsOperandText (text : String) (expr : Expr) : Prop where
  accepted : primary.Accepts Expr.ofPrimary text.toList expr
  holds : Delimiter.output.Holds text.toList

namespace Template

variable {config : Config} {left right : String} {leftExpr rightExpr : Expr}

/-- The source of an output of two operands with an operator between them. -/
def comparisonSource (left spelling right : String) : String :=
  outputSource (left ++ " " ++ spelling ++ " " ++ right)

/-- A source compiles, and a text is what it is rendered as. -/
def Shows (config : Config) (data : Context) (now : Moment) (source text : String) : Prop :=
  ∃ template, compile config source = .ok template ∧ template.render data now = .ok text

theorem compile_comparisonSource {operator : CompareOperator} {spelling : String}
    (written : spelling ∈ operator.spellings) (isLeft : IsOperandText left leftExpr)
    (isRight : IsOperandText right rightExpr) :
    compile config (comparisonSource left spelling right) =
      .ok ⟨[.output ⟨.comparison operator leftExpr rightExpr, []⟩], config⟩ := by
  have text : (left ++ " " ++ spelling ++ " " ++ right).toList =
      left.toList ++ ' ' :: (spelling.toList ++ ' ' :: right.toList) := by
    simp
  have holds : Delimiter.output.Holds
      (left.toList ++ ' ' :: (spelling.toList ++ ' ' :: right.toList)) := by
    have between := isLeft.holds.append isRight.holds
      (CompareOperator.foreign spelling written) (by simp)
    simpa using between
  have accepted := Expr.accepts_spelling written isLeft.accepted isRight.accepted
  refine compile_outputSource (text ▸ holds.free) ?_
  rw [text, Text.trim_of_ends holds.begins holds.ends]
  have read := @Stage.output_pipelineSource config.hasFilter [] _ _ accepted (by simp) 0
  rwa [Stage.pipelineSource, List.flatMap_nil, List.append_nil] at read

theorem render_comparison (operator : CompareOperator) (data : Context) (now : Moment) :
    render ⟨[.output ⟨.comparison operator leftExpr rightExpr, []⟩], config⟩ data now =
      .ok (if ((Expr.comparison operator leftExpr rightExpr).eval (.start data now)).isTruthy
        then "true" else "false") := by
  have known : (Expr.comparison operator leftExpr rightExpr).eval? (.start data now) =
      some ((Expr.comparison operator leftExpr rightExpr).eval (.start data now)) := rfl
  simp only [render, run, Node.renderBody, Node.render,
    Output.text_of_known known, List.foldlM_nil]
  rw [Expr.eval]
  cases operator.holds (leftExpr.eval (.start data now)).comparable
    (rightExpr.eval (.start data now)).comparable <;> rfl

/--
Comparisons from both sides.  The order of two values the other way round is the
reverse, and so is their equality; only numbers among themselves and texts among
themselves have an order.  So an operator holds of two operands just when its
mirror image holds of them the other way round, and `!=` just when `==` does
not.  Where the operands have an order, just one of `<`, `>` and both of `<=`
and `>=` holds of them, and where they have none, none of the four does.  All
this is what outputs show, with `<>` for `!=` too.
-/
theorem comparison_mirrored (config : Config) :
    (∀ first second : Value,
      second.order? first = (first.order? second).map Ordering.swap ∧
        (second.equals first ↔ first.equals second) ∧
        ((first.order? second).isSome ↔
          (∃ left right, first = .number left ∧ second = .number right) ∨
            ∃ left right, first = .string left ∧ second = .string right)) ∧
    (∀ (scope : Scope) (left right : Expr),
      let holds := fun operator first second =>
        ((Expr.comparison operator first second).eval scope).isTruthy
      let order := (left.eval scope).comparable.order? (right.eval scope).comparable
      (∀ pair ∈ CompareOperator.mirrored, holds pair.1 left right = holds pair.2 right left) ∧
        holds .unequal left right = !holds .equal left right ∧
        (order.isSome →
          [holds .less left right, holds .greater left right,
            holds .lessOrEqual left right && holds .greaterOrEqual left right].count true = 1) ∧
        (order = none →
          ∀ operator ∈ CompareOperator.ordering, holds operator left right = false)) ∧
    ∀ operator, ∀ spelling ∈ CompareOperator.spellings operator,
      ∀ left right leftExpr rightExpr, IsOperandText left leftExpr →
        IsOperandText right rightExpr → ∀ data now,
          Shows config data now (comparisonSource left spelling right)
            (if ((Expr.comparison operator leftExpr rightExpr).eval (.start data now)).isTruthy
              then "true" else "false") := by
  refine ⟨fun first second => ⟨Value.order?_swap first second, ?_, Value.isSome_order?_iff⟩,
    fun scope left right => ⟨CompareOperator.holds_mirrored _ _, rfl, fun ordered => ?_,
      CompareOperator.holds_of_unordered⟩, ?_⟩
  · rw [Value.equals_comm]
  · obtain ⟨order, isOrder⟩ := Option.isSome_iff_exists.1 ordered
    exact CompareOperator.holds_of_order? isOrder
  · intro operator spelling written left right leftExpr rightExpr isLeft isRight data now
    exact ⟨_, compile_comparisonSource written isLeft isRight, render_comparison operator data now⟩

/-- An object is compared as the text it shows. -/
theorem comparison_mirrored_duncan :
    let host : HostObject Value := ⟨0, fun _ => none, fun _ => none, some "Duncan", "Host"⟩
    let data : Context := ⟨[("ghola", .object host)]⟩
    let holds := fun operator first second =>
      ((Expr.comparison operator first second).eval
        (.start data (Moment.ofDate ⟨0⟩))).isTruthy
    let ghola := Expr.path ["ghola"]
    let leto := Expr.literal (.string "Leto")
    [holds .less ghola leto, holds .greater ghola leto,
        holds .lessOrEqual ghola leto && holds .greaterOrEqual ghola leto].count true = 1 ∧
      (∀ operator ∈ CompareOperator.ordering, holds operator ghola (.literal .nil) = false) ∧
      Shows .empty data (Moment.ofDate ⟨0⟩) (comparisonSource "ghola" "<>" "'Leto'") "true" := by
  intro host data holds ghola leto
  obtain ⟨-, compared, shown⟩ := comparison_mirrored .empty
  have name : IsOperandText "ghola" ghola :=
    ⟨Expr.accepts_name (by decide) (by decide), holds_name (by decide)⟩
  have text : IsOperandText "'Leto'" leto :=
    ⟨⟨_, ⟨_, rfl, fun _ => by cbv⟩, rfl⟩, ⟨⟨_, rfl, rfl⟩, ⟨_, rfl, rfl⟩, by decide⟩⟩
  exact ⟨(compared _ ghola leto).2.2.1 rfl, (compared _ ghola (.literal .nil)).2.2.2 rfl,
    shown .unequal "<>" (by decide) _ _ _ _ name text data _⟩

end Template

end Stencil
