import Stencil.Proofs.Node.Agreement
import Stencil.Proofs.Node.Rendering

/-!
# What captures write

A capture writes nothing itself: what the nodes in it write becomes the value of
a variable.  So nodes of which every one that could write stands in a capture,
at whatever depth, leave the output as it is.
-/

namespace Stencil

namespace Node

mutual

/-- Whether a node may add to the output: not by anything inside a capture. -/
def writes : Node → Bool
  | .text _ | .output _ | .custom _ _ => true
  | .assign _ _ | .capture _ _ => false
  | .conditional branches => writesBranches branches
  | .switch _ cases none => writesCases cases
  | .switch _ cases (some body) => writesCases cases || writesBody body

def writesBody : List Node → Bool
  | [] => false
  | node :: nodes => writes node || writesBody nodes

def writesBranches : List (Branch Node) → Bool
  | [] => false
  | ⟨_, body⟩ :: branches => writesBody body || writesBranches branches

def writesCases : List (When Node) → Bool
  | [] => false
  | ⟨_, body⟩ :: cases => writesBody body || writesCases cases

end

variable {config : Config}

mutual

theorem output_of_render : ∀ node : Node, node.writes = false → ∀ rendering next : Rendering,
    render config node rendering = .ok next → next.output = rendering.output
  | .conditional branches, silent, rendering, next, rendered =>
      output_of_renderBranches branches silent rendering next rendered
  | .switch subject cases none, silent, rendering, next, rendered => by
      rw [render, Option.getD_eq_iff] at rendered
      rcases rendered with chosen | ⟨-, unchanged⟩
      · exact output_of_renderCases _ cases silent rendering next chosen
      · cases unchanged
        rfl
  | .switch subject cases (some body), silent, rendering, next, rendered => by
      obtain ⟨silentCases, silentBody⟩ := Bool.or_eq_false_iff.1 silent
      rw [render, Option.getD_eq_iff] at rendered
      rcases rendered with chosen | ⟨-, last⟩
      · exact output_of_renderCases _ cases silentCases rendering next chosen
      · exact output_of_renderBody body silentBody rendering next last
  | .capture name body, _, rendering, next, rendered => by
      obtain ⟨captured, -, rfl⟩ := Except.map_eq_ok_iff.1 rendered
      rfl
  | .assign name value, _, rendering, next, rendered => by
      obtain ⟨result, -, rfl⟩ := Except.map_eq_ok_iff.1 rendered
      rfl

theorem output_of_renderBody : ∀ nodes : List Node, writesBody nodes = false →
    ∀ rendering next : Rendering, renderBody config nodes rendering = .ok next →
      next.output = rendering.output
  | [], _, rendering, next, rendered => by
      cases rendered
      rfl
  | node :: nodes, silent, rendering, next, rendered => by
      obtain ⟨first, rest⟩ := Bool.or_eq_false_iff.1 silent
      obtain ⟨middle, here, later⟩ := renderBody_cons_eq_ok_iff.1 rendered
      rw [output_of_renderBody nodes rest middle next later,
        output_of_render node first rendering middle here]

theorem output_of_renderBranches : ∀ branches : List (Branch Node),
    writesBranches branches = false → ∀ rendering next : Rendering,
      renderBranches config branches rendering = .ok next → next.output = rendering.output
  | [], _, rendering, next, rendered => by
      cases rendered
      rfl
  | ⟨condition, body⟩ :: branches, silent, rendering, next, rendered => by
      obtain ⟨here, rest⟩ := Bool.or_eq_false_iff.1 silent
      rw [renderBranches] at rendered
      split at rendered
      · exact output_of_renderBody body here rendering next rendered
      · exact output_of_renderBranches branches rest rendering next rendered

theorem output_of_renderCases (subject : Value) : ∀ cases : List (When Node),
    writesCases cases = false → ∀ rendering next : Rendering,
      renderCases config subject cases rendering = some (.ok next) →
        next.output = rendering.output
  | [], _, rendering, next, rendered => by cases rendered
  | ⟨values, body⟩ :: cases, silent, rendering, next, rendered => by
      obtain ⟨here, rest⟩ := Bool.or_eq_false_iff.1 silent
      rw [renderCases] at rendered
      split at rendered
      · exact output_of_renderBody body here rendering next (Option.some.inj rendered)
      · exact output_of_renderCases subject cases rest rendering next rendered

end

/-- Nodes without registered tags write behind the output so far, whatever it is. -/
theorem renderBody_of_untagged {nodes : List Node}
    (untagged : EverywhereBody (fun node => ¬ node.isCustom) nodes) (scope : Scope)
    (before : String) :
    renderBody config nodes ⟨scope, before⟩ =
      (renderBody config nodes ⟨scope, ""⟩).map (Rendering.prepend before) := by
  have appends : EverywhereBody (AppendsOnly config) nodes := by
    refine EverywhereBody.imp (fun node known => ?_) nodes untagged
    cases node with
    | custom name markup => exact absurd rfl known
    | _ => trivial
  have moved := renderBody_prepend_of_everywhere before nodes appends ⟨scope, ""⟩
  rwa [Rendering.prepend, String.append_empty] at moved

/-- A capture between nodes: its text is bound to its name and stands nowhere else. -/
theorem renderBody_capture_between {front back : List Node}
    (untaggedFront : EverywhereBody (fun node => ¬ node.isCustom) front)
    (untaggedBack : EverywhereBody (fun node => ¬ node.isCustom) back) (name : String)
    (body : List Node) (scope : Scope) (before : String) :
    renderBody config (front ++ .capture name body :: back) ⟨scope, before⟩ = do
      let first ← renderBody config front ⟨scope, ""⟩
      let captured ← renderBody config body ⟨first.scope, ""⟩
      let last ← renderBody config back
        ⟨captured.scope.set name (.string captured.output), ""⟩
      return ⟨last.scope, before ++ first.output ++ last.output⟩ := by
  rw [renderBody_append, renderBody_of_untagged untaggedFront]
  cases renderBody config front ⟨scope, ""⟩ with
  | error fault => rfl
  | ok first =>
      simp only [Except.map, bind, Except.bind, renderBody, render, Rendering.prepend]
      cases renderBody config body ⟨first.scope, ""⟩ with
      | error fault => rfl
      | ok captured =>
          dsimp only [Rendering.set]
          rw [renderBody_of_untagged untaggedBack]
          cases renderBody config back ⟨captured.scope.set name (.string captured.output), ""⟩ <;>
            rfl

/-- What a capture has bound is written by an output of its name. -/
theorem text_path_set (scope : Scope) (name text : String) :
    Output.text config (scope.set name (.string text)) ⟨.path [name], []⟩ = .ok text := by
  simp [Output.text, Output.eval?, Expr.eval?, Scope.lookup?_set, Value.follow?, Except.map, pure,
    Except.pure, Value.render]

end Node

end Stencil
