import Stencil.Proofs.Grammar.Yield
import Stencil.Proofs.Syntax.Denotation
import Stencil.Proofs.Syntax.Failure

/-!
# Trees that no text has

What is made of the trees of a tag may be out of bounds, or call a filter that is
not registered.  It never meets a tree that it does not expect: the trees have
the parts that the grammar gives them, and every decimal is read.
-/

namespace Stencil

open Checked (Fails)
open Grammar (Peg Rule Tree)

/-- A problem that a source can have. -/
def Foreseen (failure : Located Problem) : Prop :=
  failure.content ≠ .strayTree

variable {stop : Nat} {tree : Tree} {trees : List Tree}

namespace Expr

theorem foreseen_ofLiteral (constant : tree.IsConstant) : Fails Foreseen (ofLiteral stop tree) := by
  cases constant with
  | int =>
      unfold ofLiteral
      dsimp only
      split
      · exact .ok _
      · exact .fail nofun
  | float decimal =>
      cases decimal with
      | mk signed whole_ne whole_digits _ fraction_digits =>
          unfold ofLiteral
          dsimp only
          rw [Numeral.read?_eq_decimal signed whole_ne whole_digits fraction_digits]
          exact .ok _
  | string | boolean | nil => exact .ok _

theorem foreseen_ofPrimary (primary : tree.IsPrimary) : Fails Foreseen (ofPrimary stop tree) := by
  cases primary with
  | literal literal =>
      obtain ⟨constant⟩ := literal
      exact (foreseen_ofLiteral constant).map
  | path path =>
      obtain ⟨text, start, rfl⟩ := path
      exact .ok _

/-- Every operator of a comparison is one that values are compared by. -/
theorem exists_operator? (isOperator : tree.IsOperator) :
    ∃ operator, operator? tree = some operator := by
  obtain ⟨rule, text, start, children⟩ := tree
  simp only [Tree.IsOperator, Tree.rule, List.mem_cons, List.not_mem_nil, or_false] at isOperator
  rcases isOperator with rfl | rfl | rfl | rfl | rfl | rfl | rfl <;> exact ⟨_, rfl⟩

theorem exists_connective? (connects : tree.IsConnective) :
    ∃ connective, connective? tree = some connective := by
  obtain ⟨text, start, rfl⟩ | ⟨text, start, rfl⟩ := connects <;> exact ⟨_, rfl⟩

theorem foreseen_ofComparison (comparison : tree.IsComparison) :
    Fails Foreseen (ofComparison stop tree) := by
  cases comparison with
  | single primary => exact foreseen_ofPrimary primary
  | pair leftPrimary isOperator rightPrimary =>
      obtain ⟨operator, known⟩ := exists_operator? isOperator
      refine .bind (foreseen_ofPrimary leftPrimary) fun left _ => ?_
      refine .bind (foreseen_ofPrimary rightPrimary) fun right _ => ?_
      rw [known]
      exact .ok _

theorem foreseen_ofComparisons (comparisons : Tree.AreComparisons trees) :
    Fails Foreseen (ofComparisons stop trees) := by
  induction comparisons with
  | single comparison => exact foreseen_ofComparison comparison
  | join comparison connects others ih =>
      obtain ⟨connective, known⟩ := exists_connective? connects
      cases others <;>
      · refine .bind (foreseen_ofComparison comparison) fun left _ => ?_
        refine .bind ih fun right _ => ?_
        rw [known]
        exact .ok _

theorem foreseen_ofCondition (condition : tree.IsCondition) :
    Fails Foreseen (ofCondition stop tree) := by
  obtain ⟨comparisons⟩ := condition
  exact foreseen_ofComparisons comparisons

end Expr

section Filters

variable {known : String → Bool}

theorem FilterCall.foreseen_ofTree (filter : tree.IsFilter) :
    Fails Foreseen (ofTree known stop tree) := by
  have named (name : String) (argument : Option Expr) (position : Nat) : Fails Foreseen
      (if known name then .ok ⟨name, argument⟩
        else Checked.fail (.unknownFilter name) position : Checked FilterCall) := by
    split
    · exact .ok _
    · exact .fail nofun
  cases filter with
  | plain ident =>
      obtain ⟨text, start, rfl⟩ := ident
      exact .bind (.ok none) fun argument _ => named _ argument _
  | given ident primary =>
      obtain ⟨text, start, rfl⟩ := ident
      exact .bind (Expr.foreseen_ofPrimary primary).map fun argument _ => named _ argument _

theorem FilterCall.foreseen_ofTrees {filters : List Tree} {last : Tree}
    (areFilters : ∀ filter ∈ filters, filter.IsFilter) (ends : last.IsLeaf .endOfTag) :
    Fails Foreseen (ofTrees known stop (filters ++ [last])) := by
  induction filters with
  | nil =>
      obtain ⟨text, start, rfl⟩ := ends
      exact .ok _
  | cons filter filters ih =>
      obtain ⟨isFilter, others⟩ := List.forall_mem_cons.1 areFilters
      have read := @foreseen_ofTree stop _ known isFilter
      cases isFilter <;>
        exact .bind read fun _ _ => .bind (ih others) fun _ _ => .ok _

theorem Output.foreseen_ofTrees (output : Tree.AreOutput trees) :
    Fails Foreseen (Output.ofTrees known stop trees) := by
  cases output with
  | mk comparison areFilters ends =>
      exact .bind (Expr.foreseen_ofComparison comparison) fun _ _ =>
        .bind (FilterCall.foreseen_ofTrees areFilters ends) fun _ _ => .ok _

end Filters

namespace TagInside

theorem foreseen_valuesOf (values : Tree.AreValues trees) :
    Fails Foreseen (valuesOf stop trees) := by
  -- A value is read before what stands behind it, whatever that is.
  have value {tree : Tree} {others : List Tree} (primary : tree.IsPrimary)
      (later : Fails Foreseen (valuesOf stop others)) :
      Fails Foreseen (valuesOf stop (tree :: others)) := by
    have read := @Expr.foreseen_ofPrimary stop _ primary
    cases primary <;> exact .bind read fun _ _ => .bind later fun _ _ => .ok _
  induction values with
  | last primary ends =>
      obtain ⟨text, start, rfl⟩ := ends
      exact value primary (.ok _)
  | comma primary _ ih => exact value primary ih
  | @or _ _ rest primary connects _ ih =>
      obtain ⟨text, start, rfl⟩ := connects
      have skipped : valuesOf stop (⟨.or, text, start, []⟩ :: rest) = valuesOf stop rest := by
        rw [valuesOf]
      exact value primary (skipped ▸ ih)

variable {inside : TagInside} {rule : Rule} {grammar : Peg}

theorem foreseen_parse (yields : grammar.YieldsOne (Tree.IsTag rule)) :
    Fails Foreseen (inside.parse grammar) := by
  unfold parse Peg.parse
  cases found : grammar.read inside.text with
  | none => exact .fail nofun
  | some reading =>
      obtain ⟨trees, rest⟩ := reading
      obtain ⟨⟨_, _, _, children⟩, rfl, -⟩ := yields _ _ _ found
      exact .ok children

theorem isTag_of_parse (yields : grammar.YieldsOne (Tree.IsTag rule))
    (parsed : inside.parse grammar = .ok trees) :
    ∃ other text start, Tree.IsTag rule ⟨other, text, start, trees⟩ := by
  unfold parse Peg.parse at parsed
  cases found : grammar.read inside.text with
  | none =>
      rw [found] at parsed
      cases parsed
  | some reading =>
      obtain ⟨roots, rest⟩ := reading
      obtain ⟨⟨other, text, start, children⟩, rfl, isTag⟩ := yields _ _ _ found
      rw [found] at parsed
      cases parsed
      exact ⟨other, text, start, isTag⟩

/-- What stands in a tag is read by its rule, and then turned into something. -/
theorem foreseen_parse_bind {α : Type} (yields : grammar.YieldsOne (Tree.IsTag rule))
    {next : List Tree → Checked α}
    (later : ∀ other text start trees, Tree.IsTag rule ⟨other, text, start, trees⟩ →
      Fails Foreseen (next trees)) :
    Fails Foreseen (inside.parse grammar >>= next) := by
  refine .bind (foreseen_parse yields) fun trees parsed => ?_
  obtain ⟨other, text, start, isTag⟩ := isTag_of_parse yields parsed
  exact later other text start trees isTag

theorem foreseen_output (known : String → Bool) : Fails Foreseen (inside.output known) := by
  refine foreseen_parse_bind Grammar.yields_outputTag fun _ _ _ trees isTag => ?_
  cases isTag with
  | output output => exact Output.foreseen_ofTrees output

theorem foreseen_condition : Fails Foreseen inside.condition := by
  refine foreseen_parse_bind Grammar.yields_conditionTag fun _ _ _ trees isTag => ?_
  cases isTag with
  | condition isCondition ends => exact Expr.foreseen_ofCondition isCondition

theorem foreseen_subject : Fails Foreseen inside.subject := by
  refine foreseen_parse_bind Grammar.yields_caseTag fun _ _ _ trees isTag => ?_
  cases isTag with
  | case primary ends => exact Expr.foreseen_ofPrimary primary

theorem foreseen_values : Fails Foreseen inside.values := by
  refine foreseen_parse_bind Grammar.yields_whenTag fun _ _ _ trees isTag => ?_
  cases isTag with
  | when values => exact foreseen_valuesOf values

theorem foreseen_captureName : Fails Foreseen inside.captureName := by
  refine foreseen_parse_bind Grammar.yields_captureTag fun _ _ _ trees isTag => ?_
  cases isTag with
  | capture ident ends =>
      obtain ⟨text, start, rfl⟩ := ident
      exact .ok _

theorem foreseen_assignment (known : String → Bool) :
    Fails Foreseen (inside.assignment known) := by
  refine foreseen_parse_bind Grammar.yields_assignTag fun _ _ _ trees isTag => ?_
  cases isTag with
  | assign ident output =>
      obtain ⟨text, start, rfl⟩ := ident
      exact .bind (Output.foreseen_ofTrees output) fun _ _ => .ok _

end TagInside

end Stencil
