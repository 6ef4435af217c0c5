import Mathlib.Data.List.Forall2
import Stencil.Proofs.Syntax.Derivation

/-!
# Trees at other places

Trees with the same rules and texts become the same syntax, wherever in a text
they were read.
-/

namespace Stencil

namespace Grammar

/-- Trees that are the same but for the places at which they begin. -/
inductive Tree.Same : Tree → Tree → Prop
  | mk {rule : Rule} {text start place : List Char} {children others : List Tree}
      (parts : List.Forall₂ Same children others) :
      Same ⟨rule, text, start, children⟩ ⟨rule, text, place, others⟩

mutual

theorem Tree.same_self : ∀ tree : Tree, tree.Same tree
  | ⟨_, _, _, children⟩ => .mk (same_self_all children)

theorem Tree.same_self_all : ∀ trees : List Tree, List.Forall₂ Tree.Same trees trees
  | [] => .nil
  | tree :: trees => .cons tree.same_self (same_self_all trees)

end

theorem Tree.same_leaf {rule : Rule} {text start place : List Char} :
    Tree.Same ⟨rule, text, start, []⟩ ⟨rule, text, place, []⟩ :=
  .mk .nil

end Grammar

open Grammar (Tree)

variable {stop other : Nat} {first second : Tree} {trees others : List Tree}

namespace Expr

variable {expr : Expr}

theorem ofLiteral_of_same {value : Value} (same : first.Same second)
    (read : ofLiteral stop first = .ok value) : ofLiteral other second = .ok value := by
  rw [ofLiteral_eq_ok_iff] at read ⊢
  obtain ⟨_⟩ := same
  cases read with
  | int known => exact .int known
  | float known => exact .float known
  | string => exact .string
  | boolean => exact .boolean
  | nil => exact .nil

theorem ofPrimary_of_same (same : first.Same second) (read : ofPrimary stop first = .ok expr) :
    ofPrimary other second = .ok expr := by
  rw [ofPrimary_eq_ok_iff] at read ⊢
  cases read with
  | literal known =>
      obtain ⟨_ | ⟨⟨_ | ⟨literal, ⟨⟩⟩⟩, ⟨⟩⟩⟩ := same
      exact .literal (ofLiteral_of_same literal known)
  | path =>
      obtain ⟨_ | ⟨⟨_⟩, ⟨⟩⟩⟩ := same
      exact .path

theorem operator?_of_same (same : first.Same second) : operator? first = operator? second := by
  obtain @⟨rule, _, _, _, _, _, _⟩ := same
  cases rule <;> rfl

theorem connective?_of_same (same : first.Same second) :
    connective? first = connective? second := by
  obtain @⟨rule, _, _, _, _, _, _⟩ := same
  cases rule <;> rfl

theorem ofComparison_of_same (same : first.Same second)
    (read : ofComparison stop first = .ok expr) : ofComparison other second = .ok expr := by
  rw [ofComparison_eq_ok_iff] at read ⊢
  cases read with
  | operand here =>
      obtain ⟨_ | ⟨operand, ⟨⟩⟩⟩ := same
      exact .operand (ofPrimary_of_same operand here)
  | comparison leftHere known rightHere =>
      obtain ⟨_ | ⟨left, _ | ⟨middle, _ | ⟨right, ⟨⟩⟩⟩⟩⟩ := same
      exact .comparison (ofPrimary_of_same left leftHere) (operator?_of_same middle ▸ known)
        (ofPrimary_of_same right rightHere)

theorem ofComparisons_of_same (same : List.Forall₂ Tree.Same trees others)
    (read : ofComparisons stop trees = .ok expr) : ofComparisons other others = .ok expr := by
  rw [ofComparisons_eq_ok_iff] at read ⊢
  induction read generalizing others with
  | last here =>
      obtain _ | ⟨only, ⟨⟩⟩ := same
      exact .last (ofComparison_of_same only here)
  | logic here known _ ih =>
      obtain _ | ⟨left, _ | ⟨middle, rest⟩⟩ := same
      exact .logic (ofComparison_of_same left here) (connective?_of_same middle ▸ known) (ih rest)

end Expr

namespace FilterCall

variable {known : String → Bool}

theorem ofTree_of_same {call : FilterCall} (same : first.Same second)
    (read : ofTree known stop first = .ok call) : ofTree known other second = .ok call := by
  rw [ofTree_eq_ok_iff] at read ⊢
  cases read with
  | alone registered =>
      obtain ⟨_ | ⟨⟨_⟩, ⟨⟩⟩⟩ := same
      exact .alone registered
  | given registered argument =>
      obtain ⟨_ | ⟨⟨_⟩, _ | ⟨operand, ⟨⟩⟩⟩⟩ := same
      exact .given registered (Expr.ofPrimary_of_same operand argument)

theorem ofTrees_of_same {calls : List FilterCall} (same : List.Forall₂ Tree.Same trees others)
    (read : ofTrees known stop trees = .ok calls) : ofTrees known other others = .ok calls := by
  rw [ofTrees_eq_ok_iff] at read ⊢
  induction read generalizing others with
  | done =>
      obtain _ | ⟨⟨_⟩, ⟨⟩⟩ := same
      exact .done
  | cons here _ ih =>
      obtain _ | ⟨filter, rest⟩ := same
      exact .cons (ofTree_of_same filter here) (ih rest)

end FilterCall

theorem TagInside.valuesOf_of_same {values : List Expr}
    (same : List.Forall₂ Tree.Same trees others) (read : valuesOf stop trees = .ok values) :
    valuesOf other others = .ok values := by
  rw [valuesOf_eq_ok_iff] at read ⊢
  induction read generalizing others with
  | nil =>
      cases same
      exact .nil
  | done =>
      obtain _ | ⟨⟨_⟩, ⟨⟩⟩ := same
      exact .done
  | or _ ih =>
      obtain _ | ⟨⟨_⟩, rest⟩ := same
      exact .or (ih rest)
  | cons here _ ih =>
      obtain _ | ⟨operand, rest⟩ := same
      exact .cons (Expr.ofPrimary_of_same operand here) (ih rest)

end Stencil
