import Stencil.Block
import Stencil.Proofs.Alike

/-!
# Positions matter to reports only

What the inside of a tag is read as, and why it cannot be read, does not depend
on where the tag stands in the source.
-/

namespace Stencil

open Grammar (Tree)
open Located (Alike)

/-- The same problem at two positions. -/
theorem Checked.alike_fail {α β : Type} {related : α → β → Prop} (problem : Problem)
    (position other : Nat) : Alike related (fail problem position) (fail problem other) :=
  .error rfl

open Checked (alike_fail)

variable (stop other : Nat)

namespace Expr

theorem alike_ofLiteral (tree : Tree) : Alike Eq (ofLiteral stop tree) (ofLiteral other tree) := by
  unfold ofLiteral
  split
  · split
    · exact .ok rfl
    · exact alike_fail _ _ _
  · split
    · exact .ok rfl
    · exact alike_fail _ _ _
  · exact .ok rfl
  · exact .ok rfl
  · exact .ok rfl
  · exact alike_fail _ _ _

theorem alike_ofPrimary (tree : Tree) : Alike Eq (ofPrimary stop tree) (ofPrimary other tree) := by
  unfold ofPrimary
  split
  · exact (alike_ofLiteral stop other _).map_eq _
  · exact .ok rfl
  · exact alike_fail _ _ _

theorem alike_ofComparison (tree : Tree) :
    Alike Eq (ofComparison stop tree) (ofComparison other tree) := by
  unfold ofComparison
  split
  · exact alike_ofPrimary stop other _
  · refine (alike_ofPrimary stop other _).bind_eq fun left => ?_
    refine (alike_ofPrimary stop other _).bind_eq fun right => ?_
    split
    · exact .ok rfl
    · exact alike_fail _ _ _
  · exact alike_fail _ _ _

theorem alike_ofComparisons (trees : List Tree) :
    Alike Eq (ofComparisons stop trees) (ofComparisons other trees) := by
  induction trees using ofComparisons.induct with
  | case1 => exact alike_fail _ _ _
  | case2 only => exact alike_ofComparison stop other only
  | case3 left middle rest ih =>
      unfold ofComparisons
      refine (alike_ofComparison stop other left).bind_eq fun left => ih.bind_eq fun right => ?_
      split
      · exact .ok rfl
      · exact alike_fail _ _ _

theorem alike_ofCondition (tree : Tree) :
    Alike Eq (ofCondition stop tree) (ofCondition other tree) := by
  unfold ofCondition
  split
  · exact alike_ofComparisons stop other _
  · exact alike_fail _ _ _

end Expr

namespace FilterCall

variable (known : String → Bool)

theorem alike_ofName (name : String) (argument : Option Expr) (position place : Nat) :
    Alike Eq
      (if known name then pure ⟨name, argument⟩
        else Checked.fail (.unknownFilter name) position : Checked FilterCall)
      (if known name then pure ⟨name, argument⟩
        else Checked.fail (.unknownFilter name) place : Checked FilterCall) := by
  split
  · exact .ok rfl
  · exact alike_fail _ _ _

theorem alike_ofTree (tree : Tree) :
    Alike Eq (ofTree known stop tree) (ofTree known other tree) := by
  unfold ofTree
  split
  · next arguments =>
      rcases arguments with _ | ⟨argument, _ | _⟩
      · exact alike_ofName known _ none _ _
      · exact ((Expr.alike_ofPrimary stop other argument).map_eq some).bind_eq fun argument =>
          alike_ofName known _ argument _ _
      · exact alike_fail _ _ _
  · exact alike_fail _ _ _

theorem alike_ofTrees (trees : List Tree) :
    Alike Eq (ofTrees known stop trees) (ofTrees known other trees) := by
  induction trees with
  | nil => exact alike_fail _ _ _
  | cons tree trees ih =>
      unfold ofTrees
      split
      · exact .ok rfl
      · exact alike_fail _ _ _
      · next first others single same =>
          obtain ⟨rfl, rfl⟩ := List.cons.inj same
          exact (alike_ofTree stop other known tree).bind_eq fun call => ih.bind_eq fun calls => .ok rfl

end FilterCall

theorem Output.alike_ofTrees (known : String → Bool) (trees : List Tree) :
    Alike Eq (Output.ofTrees known stop trees) (Output.ofTrees known other trees) := by
  cases trees with
  | nil => exact alike_fail _ _ _
  | cons comparison filters =>
      exact (Expr.alike_ofComparison stop other comparison).bind_eq fun expr =>
        (FilterCall.alike_ofTrees stop other known filters).bind_eq fun calls => .ok rfl

namespace TagInside

theorem alike_valuesOf (trees : List Tree) :
    Alike Eq (valuesOf stop trees) (valuesOf other trees) := by
  induction trees with
  | nil => exact .ok rfl
  | cons tree trees ih =>
      unfold valuesOf
      split
      · exact .ok rfl
      · exact .ok rfl
      · next same =>
          obtain ⟨rfl, rfl⟩ := List.cons.inj same
          exact ih
      · next first others single connective same =>
          obtain ⟨rfl, rfl⟩ := List.cons.inj same
          exact (Expr.alike_ofPrimary stop other tree).bind_eq fun value =>
            ih.bind_eq fun values => .ok rfl

variable (text : List Char)

theorem alike_parse (grammar : Grammar.Peg) :
    Alike Eq (parse ⟨text, stop⟩ grammar) (parse ⟨text, other⟩ grammar) := by
  unfold parse
  dsimp only
  split
  · exact .ok rfl
  · exact alike_fail _ _ _
  · exact alike_fail _ _ _

theorem alike_output (known : String → Bool) :
    Alike Eq (output known ⟨text, stop⟩) (output known ⟨text, other⟩) :=
  (alike_parse stop other text _).bind_eq fun _ => Output.alike_ofTrees _ _ known _

theorem alike_condition : Alike Eq (condition ⟨text, stop⟩) (condition ⟨text, other⟩) := by
  refine (alike_parse stop other text _).bind_eq fun trees => ?_
  split
  · exact Expr.alike_ofCondition _ _ _
  · exact alike_fail _ _ _

theorem alike_subject : Alike Eq (subject ⟨text, stop⟩) (subject ⟨text, other⟩) := by
  refine (alike_parse stop other text _).bind_eq fun trees => ?_
  split
  · exact Expr.alike_ofPrimary _ _ _
  · exact alike_fail _ _ _

theorem alike_values : Alike Eq (values ⟨text, stop⟩) (values ⟨text, other⟩) :=
  (alike_parse stop other text _).bind_eq fun _ => alike_valuesOf _ _ _

theorem alike_captureName : Alike Eq (captureName ⟨text, stop⟩) (captureName ⟨text, other⟩) := by
  refine (alike_parse stop other text _).bind_eq fun trees => ?_
  split
  · exact .ok rfl
  · exact alike_fail _ _ _

theorem alike_assignment (known : String → Bool) :
    Alike Eq (assignment known ⟨text, stop⟩) (assignment known ⟨text, other⟩) := by
  refine (alike_parse stop other text _).bind_eq fun trees => ?_
  split
  · exact (Output.alike_ofTrees _ _ known _).bind_eq fun _ => .ok rfl
  · exact alike_fail _ _ _

end TagInside

end Stencil
