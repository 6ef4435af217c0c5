import Stencil.Config
import Stencil.Proofs.Syntax.Derivation

/-!
# Shapes of what is read

The syntax allows far more expressions than can stand in a tag.  Operands are
literals and paths, comparisons are of operands, connectives join comparisons
from the right, and every filter that is called is registered.
-/

namespace Stencil

open Grammar (Peg Tree)

namespace Text

theorem splitPath_ne_nil (text : List Char) : splitPath text ≠ [] := by
  rw [splitPath, splitOn]
  split <;> simp

end Text

namespace Grammar

/-- A sequence that begins with a rule begins its trees with that of the rule. -/
theorem exists_of_read_node_andThen {rule : Rule} {body second : Peg} {input rest : List Char}
    {trees : List Tree}
    (read : ((Peg.node rule body).andThen second).read input = some (trees, rest)) :
    ∃ content start children others, trees = ⟨rule, content, start, children⟩ :: others := by
  simp only [Peg.read] at read
  split at read
  · cases read
  · next here =>
      obtain ⟨⟨children, behind⟩, -, first⟩ := Option.map_eq_some_iff.1 here
      obtain ⟨⟨later, last⟩, -, same⟩ := Option.map_eq_some_iff.1 read
      cases first
      cases same
      exact ⟨_, _, _, _, rfl⟩

end Grammar

/-! ## Shapes -/

namespace Expr

/-- A literal, or a path with at least one name. -/
inductive IsOperand : Expr → Prop
  | literal (value : Value) : IsOperand (.literal value)
  | path {names : List String} (nonempty : names ≠ []) : IsOperand (.path names)

/-- An operand, or a comparison of two. -/
inductive IsRelation : Expr → Prop
  | operand {expr : Expr} (operand : expr.IsOperand) : IsRelation expr
  | comparison {operator : CompareOperator} {left right : Expr} (left_operand : left.IsOperand)
      (right_operand : right.IsOperand) : IsRelation (.comparison operator left right)

/-- A relation, or one that a connective joins to what is behind it; nothing is negated. -/
inductive IsFormula : Expr → Prop
  | relation {expr : Expr} (relation : expr.IsRelation) : IsFormula expr
  | logic {connective : Connective} {left right : Expr} (left_relation : left.IsRelation)
      (right_formula : right.IsFormula) : IsFormula (.logic connective left right)

end Expr

/-- A registered filter, with an operand as its argument if it has one. -/
structure FilterCall.WellFormed (config : Config) (call : FilterCall) : Prop where
  registered : (config.filter? call.name).isSome
  argument : ∀ argument, call.argument = some argument → argument.IsOperand

/-- A relation, and registered filters behind it. -/
structure Output.WellFormed (config : Config) (output : Output) : Prop where
  relation : output.expr.IsRelation
  filters : ∀ call ∈ output.filters, call.WellFormed config

/-! ## What trees become -/

variable {stop : Nat} {tree : Tree} {trees : List Tree}

namespace Expr

variable {expr : Expr}

theorem isOperand_of_ofPrimary (read : ofPrimary stop tree = .ok expr) : expr.IsOperand := by
  cases ofPrimary_eq_ok_iff.1 read with
  | literal => exact .literal _
  | @path _ text =>
      exact .path fun none => Text.splitPath_ne_nil text (List.map_eq_nil_iff.1 none)

theorem isRelation_of_ofComparison (read : ofComparison stop tree = .ok expr) :
    expr.IsRelation := by
  cases ofComparison_eq_ok_iff.1 read with
  | operand here => exact .operand (isOperand_of_ofPrimary here)
  | comparison left _ right =>
      exact .comparison (isOperand_of_ofPrimary left) (isOperand_of_ofPrimary right)

theorem isFormula_of_ofComparisons (read : ofComparisons stop trees = .ok expr) :
    expr.IsFormula := by
  rw [ofComparisons_eq_ok_iff] at read
  induction read with
  | last here => exact .relation (isRelation_of_ofComparison here)
  | logic here _ _ ih => exact .logic (isRelation_of_ofComparison here) ih

theorem isFormula_of_ofCondition (read : ofCondition stop tree = .ok expr) : expr.IsFormula := by
  obtain ⟨_, _, comparisons, -, inner⟩ := ofCondition_eq_ok_iff.1 read
  exact isFormula_of_ofComparisons inner

end Expr

section

variable {config : Config}

theorem FilterCall.wellFormed_of_ofTree {call : FilterCall}
    (read : ofTree config.hasFilter stop tree = .ok call) : call.WellFormed config := by
  cases ofTree_eq_ok_iff.1 read with
  | alone registered => exact ⟨registered, fun _ none => nomatch none⟩
  | given registered argument =>
      refine ⟨registered, fun _ same => ?_⟩
      cases same
      exact Expr.isOperand_of_ofPrimary argument

theorem FilterCall.wellFormed_of_ofTrees {calls : List FilterCall}
    (read : ofTrees config.hasFilter stop trees = .ok calls) :
    ∀ call ∈ calls, call.WellFormed config := by
  rw [ofTrees_eq_ok_iff] at read
  induction read with
  | done => simp
  | cons here _ ih => exact List.forall_mem_cons.2 ⟨wellFormed_of_ofTree here, ih⟩

theorem Output.wellFormed_of_ofTrees {output : Output}
    (read : ofTrees config.hasFilter stop trees = .ok output) : output.WellFormed config := by
  obtain ⟨comparison, filters, -, here, behind⟩ := Output.ofTrees_eq_ok_iff.1 read
  exact ⟨Expr.isRelation_of_ofComparison here, FilterCall.wellFormed_of_ofTrees behind⟩

end

/-! ## What the insides of tags become -/

namespace TagInside

variable {inside : TagInside} {config : Config} {expr : Expr}

theorem wellFormed_of_output {output : Output}
    (read : inside.output config.hasFilter = .ok output) : output.WellFormed config := by
  obtain ⟨trees, -, read⟩ := Except.bind_eq_ok_iff.1 read
  exact Output.wellFormed_of_ofTrees read

theorem isFormula_of_condition (read : inside.condition = .ok expr) : expr.IsFormula := by
  obtain ⟨trees, -, read⟩ := Except.bind_eq_ok_iff.1 read
  split at read
  · exact Expr.isFormula_of_ofCondition read
  · cases read

theorem isOperand_of_subject (read : inside.subject = .ok expr) : expr.IsOperand := by
  obtain ⟨trees, -, read⟩ := Except.bind_eq_ok_iff.1 read
  split at read
  · exact Expr.isOperand_of_ofPrimary read
  · cases read

theorem wellFormed_of_assignment {name : String} {value : Output}
    (read : inside.assignment config.hasFilter = .ok (name, value)) : value.WellFormed config := by
  obtain ⟨_, _, _, trees, -, -, here⟩ := assignment_eq_ok_iff.1 read
  exact Output.wellFormed_of_ofTrees here

theorem isOperand_of_valuesOf {values : List Expr} (read : valuesOf stop trees = .ok values) :
    ∀ value ∈ values, value.IsOperand := by
  rw [valuesOf_eq_ok_iff] at read
  induction read with
  | nil => simp
  | done => simp
  | or _ ih => exact ih
  | cons here _ ih => exact List.forall_mem_cons.2 ⟨Expr.isOperand_of_ofPrimary here, ih⟩

/-- The first tree of a when tag is that of a value. -/
theorem exists_primary_of_parse {trees : List Tree}
    (parsed : inside.parse Grammar.whenTag = .ok trees) :
    ∃ content start children others, trees = ⟨.primary, content, start, children⟩ :: others := by
  unfold parse at parsed
  split at parsed
  · next children root =>
      cases parsed
      unfold Peg.parse at root
      split at root
      · next read =>
          cases root
          obtain ⟨⟨children, rest⟩, inner, same⟩ := Option.map_eq_some_iff.1 read
          cases same
          exact Grammar.exists_of_read_node_andThen inner
      · cases root
  · cases parsed
  · cases parsed

theorem spec_of_values {values : List Expr} (read : inside.values = .ok values) :
    values ≠ [] ∧ ∀ value ∈ values, value.IsOperand := by
  obtain ⟨trees, parsed, read⟩ := Except.bind_eq_ok_iff.1 read
  refine ⟨?_, isOperand_of_valuesOf read⟩
  obtain ⟨content, start, children, others, rfl⟩ := exists_primary_of_parse parsed
  obtain ⟨value, here, read⟩ := Except.bind_eq_ok_iff.1 read
  obtain ⟨later, behind, read⟩ := Except.bind_eq_ok_iff.1 read
  cases read
  simp

end TagInside

end Stencil
