import Stencil.Syntax

/-!
# Shapes of nodes

Conditions on all nodes of a template, at whatever depth, and the shape that
the branches of a conditional have.
-/

namespace Stencil

namespace Expr

def isNegation : Expr → Bool
  | .not _ => true
  | _ => false

end Expr

/--
The conditions of the branches of a conditional: it begins with one, which is
negated in an `unless`; only the last branch may do without, and must where
another one has been negated.
-/
structure Conditions (negated : Bool) (conditions : List (Option Expr)) : Prop where
  conditioned : ∀ condition ∈ conditions.dropLast, condition.isSome
  opened : ∃ first, conditions.head? = some (some first) ∧ first.isNegation = negated
  closed : negated → ∀ condition ∈ conditions.tail, condition = none

namespace Conditions

theorem start {negated : Bool} {first : Expr} (opens : first.isNegation = negated) :
    Conditions negated [some first] where
  conditioned := by simp
  opened := ⟨first, rfl, opens⟩
  closed := by simp

theorem concat {negated : Bool} {conditions : List (Option Expr)} {last next : Option Expr}
    (shape : Conditions negated (conditions ++ [last])) (conditioned : last.isSome)
    (closed : negated → next = none) : Conditions negated (conditions ++ [last] ++ [next]) where
  conditioned := by
    intro condition member
    rw [List.dropLast_concat, List.mem_append, List.mem_singleton] at member
    rcases member with earlier | rfl
    · apply shape.conditioned
      rwa [List.dropLast_concat]
    · exact conditioned
  opened := by
    obtain ⟨first, head, opens⟩ := shape.opened
    refine ⟨first, ?_, opens⟩
    rw [List.head?_append, head, Option.some_or]
  closed := by
    intro negates condition member
    have known := shape.closed negates
    rw [List.tail_append_of_ne_nil (by simp), List.mem_append, List.mem_singleton] at member
    rcases member with earlier | rfl
    · exact known condition earlier
    · exact closed negates

end Conditions

namespace Node

mutual

/-- A condition on a node and on all nodes inside it. -/
def Everywhere (good : Node → Prop) : Node → Prop
  | .conditional branches => good (.conditional branches) ∧ EverywhereBranches good branches
  | .switch subject cases none =>
      good (.switch subject cases none) ∧ EverywhereCases good cases
  | .switch subject cases (some body) =>
      good (.switch subject cases (some body)) ∧ EverywhereCases good cases ∧
        EverywhereBody good body
  | .capture name body => good (.capture name body) ∧ EverywhereBody good body
  | .text content => good (.text content)
  | .output value => good (.output value)
  | .assign name value => good (.assign name value)
  | .custom name markup => good (.custom name markup)

def EverywhereBody (good : Node → Prop) : List Node → Prop
  | [] => True
  | node :: nodes => Everywhere good node ∧ EverywhereBody good nodes

def EverywhereBranches (good : Node → Prop) : List (Branch Node) → Prop
  | [] => True
  | ⟨_, body⟩ :: branches => EverywhereBody good body ∧ EverywhereBranches good branches

def EverywhereCases (good : Node → Prop) : List (When Node) → Prop
  | [] => True
  | ⟨_, body⟩ :: cases => EverywhereBody good body ∧ EverywhereCases good cases

end

variable {good weaker : Node → Prop}

mutual

theorem Everywhere.imp (weaken : ∀ node, good node → weaker node) :
    ∀ node : Node, Everywhere good node → Everywhere weaker node
  | .conditional branches, ⟨here, inner⟩ =>
      ⟨weaken _ here, EverywhereBranches.imp weaken branches inner⟩
  | .switch _ cases none, ⟨here, inner⟩ =>
      ⟨weaken _ here, EverywhereCases.imp weaken cases inner⟩
  | .switch _ cases (some body), ⟨here, inner, last⟩ =>
      ⟨weaken _ here, EverywhereCases.imp weaken cases inner, EverywhereBody.imp weaken body last⟩
  | .capture _ body, ⟨here, inner⟩ => ⟨weaken _ here, EverywhereBody.imp weaken body inner⟩
  | .text _, here | .output _, here | .assign _ _, here | .custom _ _, here => weaken _ here

theorem EverywhereBody.imp (weaken : ∀ node, good node → weaker node) :
    ∀ nodes : List Node, EverywhereBody good nodes → EverywhereBody weaker nodes
  | [], _ => trivial
  | node :: nodes, ⟨first, rest⟩ =>
      ⟨Everywhere.imp weaken node first, EverywhereBody.imp weaken nodes rest⟩

theorem EverywhereBranches.imp (weaken : ∀ node, good node → weaker node) :
    ∀ branches : List (Branch Node), EverywhereBranches good branches →
      EverywhereBranches weaker branches
  | [], _ => trivial
  | ⟨_, body⟩ :: branches, ⟨first, rest⟩ =>
      ⟨EverywhereBody.imp weaken body first, EverywhereBranches.imp weaken branches rest⟩

theorem EverywhereCases.imp (weaken : ∀ node, good node → weaker node) :
    ∀ cases : List (When Node), EverywhereCases good cases → EverywhereCases weaker cases
  | [], _ => trivial
  | ⟨_, body⟩ :: cases, ⟨first, rest⟩ =>
      ⟨EverywhereBody.imp weaken body first, EverywhereCases.imp weaken cases rest⟩

end

mutual

theorem Everywhere.of_forall (always : ∀ node, good node) : ∀ node : Node, Everywhere good node
  | .conditional branches => ⟨always _, EverywhereBranches.of_forall always branches⟩
  | .switch _ cases none => ⟨always _, EverywhereCases.of_forall always cases⟩
  | .switch _ cases (some body) =>
      ⟨always _, EverywhereCases.of_forall always cases, EverywhereBody.of_forall always body⟩
  | .capture _ body => ⟨always _, EverywhereBody.of_forall always body⟩
  | .text _ | .output _ | .assign _ _ | .custom _ _ => always _

theorem EverywhereBody.of_forall (always : ∀ node, good node) :
    ∀ nodes : List Node, EverywhereBody good nodes
  | [] => trivial
  | node :: nodes => ⟨Everywhere.of_forall always node, EverywhereBody.of_forall always nodes⟩

theorem EverywhereBranches.of_forall (always : ∀ node, good node) :
    ∀ branches : List (Branch Node), EverywhereBranches good branches
  | [] => trivial
  | ⟨_, body⟩ :: branches =>
      ⟨EverywhereBody.of_forall always body, EverywhereBranches.of_forall always branches⟩

theorem EverywhereCases.of_forall (always : ∀ node, good node) :
    ∀ cases : List (When Node), EverywhereCases good cases
  | [] => trivial
  | ⟨_, body⟩ :: cases =>
      ⟨EverywhereBody.of_forall always body, EverywhereCases.of_forall always cases⟩

end

theorem everywhereBody_append {first second : List Node} :
    EverywhereBody good (first ++ second) ↔
      EverywhereBody good first ∧ EverywhereBody good second := by
  induction first with
  | nil => simp [EverywhereBody]
  | cons node nodes ih => simp [EverywhereBody, ih, and_assoc]

theorem everywhereBranches_append {first second : List (Branch Node)} :
    EverywhereBranches good (first ++ second) ↔
      EverywhereBranches good first ∧ EverywhereBranches good second := by
  induction first with
  | nil => simp [EverywhereBranches]
  | cons branch branches ih => simp [EverywhereBranches, ih, and_assoc]

theorem everywhereCases_append {first second : List (When Node)} :
    EverywhereCases good (first ++ second) ↔
      EverywhereCases good first ∧ EverywhereCases good second := by
  induction first with
  | nil => simp [EverywhereCases]
  | cons case cases ih => simp [EverywhereCases, ih, and_assoc]

/-- The branches of a conditional have the shape that they can have in a source. -/
def Shaped : Node → Prop
  | .conditional branches => ∃ negated, Conditions negated (branches.map Branch.condition)
  | _ => True

end Node

end Stencil
