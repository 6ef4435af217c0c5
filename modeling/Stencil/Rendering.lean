import Stencil.Evaluation
import Stencil.Text.Case

/-!
# Rendering

Nodes are rendered one after the other.  Each adds to the output, and some set
variables of the scope for those behind them.
-/

namespace Stencil

/-- The scope and the output while a template is rendered. -/
structure Rendering where
  scope : Scope
  output : String

namespace Rendering

/-- The rendering with a text added to its output. -/
def write (rendering : Rendering) (text : String) : Rendering :=
  { rendering with output := rendering.output ++ text }

def set (rendering : Rendering) (name : String) (value : Value) : Rendering :=
  { rendering with scope := rendering.scope.set name value }

end Rendering

namespace Output

/-- What stands in the output for a path without a value: the path in upper case, in braces. -/
def placeholder (names : List String) : String :=
  let path := Text.upper (List.intercalate ['.'] (names.map String.toList))
  String.ofList (['{', '{'] ++ path ++ ['}', '}'])

def text (config : Config) (scope : Scope) (output : Output) : Except Fault String :=
  match output.eval? config scope with
  | .error fault => .error fault
  | .ok (some value) => .ok value.render
  | .ok none =>
      match output.expr with
      | .path names => .ok (placeholder names)
      | _ => .ok ""

end Output

namespace Branch

/-- Whether a branch applies. -/
def applies {ν : Type} (scope : Scope) (branch : Branch ν) : Bool :=
  match branch.condition with
  | none => true
  | some condition => (condition.eval scope).isTruthy

end Branch

namespace When

/-- Whether a case applies to a subject: one of its values equals it. -/
def applies {ν : Type} (scope : Scope) (subject : Value) (case : When ν) : Bool :=
  case.values.any fun value => (value.eval scope).comparable.equals subject.comparable

end When

namespace Node

mutual

def render (config : Config) : Node → Rendering → Except Fault Rendering
  | .text content, rendering => .ok (rendering.write content)
  | .output value, rendering => (value.text config rendering.scope).map rendering.write
  | .conditional branches, rendering => renderBranches config branches rendering
  | .switch subject cases none, rendering =>
      (renderCases config (subject.eval rendering.scope) cases rendering).getD (.ok rendering)
  | .switch subject cases (some body), rendering =>
      (renderCases config (subject.eval rendering.scope) cases rendering).getD
        (renderBody config body rendering)
  | .capture name body, rendering =>
      (renderBody config body { rendering with output := "" }).map fun captured =>
        { captured with output := rendering.output }.set name (.string captured.output)
  | .assign name value, rendering =>
      (value.eval? config rendering.scope).map fun value =>
        rendering.set name (value.getD .nil)
  | .custom name markup, rendering =>
      match config.tag? name with
      | none => .ok rendering
      | some tag =>
          .ok { rendering with output := tag.render markup rendering.scope rendering.output }

def renderBody (config : Config) : List Node → Rendering → Except Fault Rendering
  | [], rendering => .ok rendering
  | node :: nodes, rendering =>
      match render config node rendering with
      | .ok rendering => renderBody config nodes rendering
      | .error fault => .error fault

/-- Renders the first branch that applies. -/
def renderBranches (config : Config) :
    List (Branch Node) → Rendering → Except Fault Rendering
  | [], rendering => .ok rendering
  | ⟨condition, body⟩ :: branches, rendering =>
      if Branch.applies rendering.scope ⟨condition, body⟩ then
        renderBody config body rendering
      else
        renderBranches config branches rendering

/-- Renders the first case that applies to a subject, if one does. -/
def renderCases (config : Config) (subject : Value) :
    List (When Node) → Rendering → Option (Except Fault Rendering)
  | [], _ => none
  | ⟨values, body⟩ :: cases, rendering =>
      if When.applies rendering.scope subject ⟨values, body⟩ then
        some (renderBody config body rendering)
      else
        renderCases config subject cases rendering

end

end Node

end Stencil
