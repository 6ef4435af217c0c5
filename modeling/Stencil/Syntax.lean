import Stencil.Value

/-!
# The syntax of templates

Templates after compilation.
-/

namespace Stencil

inductive CompareOperator
  | equal
  | unequal
  | less
  | lessOrEqual
  | greater
  | greaterOrEqual
  | contains
  deriving DecidableEq, Repr

def CompareOperator.text : CompareOperator → String
  | .equal => "=="
  | .unequal => "!="
  | .less => "<"
  | .lessOrEqual => "<="
  | .greater => ">"
  | .greaterOrEqual => ">="
  | .contains => "contains"

inductive Connective
  | and
  | or
  deriving DecidableEq, Repr

def Connective.text : Connective → String
  | .and => "and"
  | .or => "or"

/-- What is evaluated in outputs, conditions and arguments. -/
inductive Expr
  | literal (value : Value)
  /-- A variable and the members that lead on from it. -/
  | path (names : List String)
  | comparison (operator : CompareOperator) (left right : Expr)
  | logic (connective : Connective) (left right : Expr)
  | not (condition : Expr)

/-- A filter by name, with its argument. -/
structure FilterCall where
  name : String
  argument : Option Expr

/-- An expression and the filters its value goes through. -/
structure Output where
  expr : Expr
  filters : List FilterCall

/-- A part of a conditional, whose nodes are `ν`; without a condition it always applies. -/
structure Branch (ν : Type) where
  condition : Option Expr
  body : List ν

/-- A part of a switch, whose nodes are `ν`; it applies to any of its values. -/
structure When (ν : Type) where
  values : List Expr
  body : List ν

/-- A part of a template. -/
inductive Node
  | text (content : String)
  | output (output : Output)
  /-- The first branch that applies is rendered. -/
  | conditional (branches : List (Branch Node))
  /-- The first case that applies is rendered, or else the last part. -/
  | switch (subject : Expr) (cases : List (When Node)) (otherwise : Option (List Node))
  | capture (name : String) (body : List Node)
  | assign (name : String) (value : Output)
  /-- A registered tag with its markup. -/
  | custom (name markup : String)

namespace Node

def isText : Node → Bool
  | .text _ => true
  | _ => false

end Node

end Stencil
