import Stencil.Proofs.Node.Rendering
import Stencil.Proofs.Node.Shape

/-!
# The names that rendering asks for

Nodes ask the data only for the names with which their paths begin.  Against
other data that agrees on these names, rendering goes through the same local
variables and writes the same output, so that the two runs differ in nothing
but the data itself.
-/

namespace Stencil

namespace Context

/-- Two contexts have the same value, or both none, for each of some names. -/
def AgreeOn (names : List String) (first second : Context) : Prop :=
  ∀ name ∈ names, first.get? name = second.get? name

theorem agreeOn_append {names others : List String} {first second : Context} :
    AgreeOn (names ++ others) first second ↔
      AgreeOn names first second ∧ AgreeOn others first second :=
  List.forall_mem_append

end Context

open Context (AgreeOn agreeOn_append)

/-! ## The names in a template -/

/-- The names with which the paths of an expression begin. -/
def Expr.roots : Expr → List String
  | .literal _ => []
  | .path names => names.head?.toList
  | .comparison _ left right | .logic _ left right => left.roots ++ right.roots
  | .not condition => condition.roots

def FilterCall.roots (call : FilterCall) : List String :=
  call.argument.elim [] Expr.roots

def Output.roots (output : Output) : List String :=
  output.expr.roots ++ output.filters.flatMap FilterCall.roots

namespace Node

def isCustom : Node → Bool
  | .custom _ _ => true
  | _ => false

mutual

/-- The names with which paths begin in a node, wherever they stand in it. -/
def roots : Node → List String
  | .text _ | .custom _ _ => []
  | .output value | .assign _ value => value.roots
  | .conditional branches => rootsOfBranches branches
  | .switch subject cases none => subject.roots ++ rootsOfCases cases
  | .switch subject cases (some body) =>
      subject.roots ++ (rootsOfCases cases ++ rootsOfBody body)
  | .capture _ body => rootsOfBody body

def rootsOfBody : List Node → List String
  | [] => []
  | node :: nodes => roots node ++ rootsOfBody nodes

def rootsOfBranches : List (Branch Node) → List String
  | [] => []
  | ⟨condition, body⟩ :: branches =>
      condition.elim [] Expr.roots ++ (rootsOfBody body ++ rootsOfBranches branches)

def rootsOfCases : List (When Node) → List String
  | [] => []
  | ⟨values, body⟩ :: cases =>
      values.flatMap Expr.roots ++ (rootsOfBody body ++ rootsOfCases cases)

end

end Node

/-! ## Evaluating in other scopes -/

/-- Two scopes have the same value, or both none, for each of some names. -/
def Scope.AgreeOn (names : List String) (first second : Scope) : Prop :=
  ∀ name ∈ names, first.get? name = second.get? name

theorem Scope.agreeOn_append {names others : List String} {first second : Scope} :
    Scope.AgreeOn (names ++ others) first second ↔
      Scope.AgreeOn names first second ∧ Scope.AgreeOn others first second :=
  List.forall_mem_append

section

variable {config : Config} {first second : Scope}

theorem Scope.lookup?_congr {names : List String}
    (agree : Scope.AgreeOn names.head?.toList first second) :
    first.lookup? names = second.lookup? names := by
  cases names with
  | nil => rfl
  | cons root members =>
      have same : first.get? root = second.get? root := agree root (by simp)
      rw [lookup?, lookup?, same]

theorem Expr.eval_congr {expr : Expr} (agree : Scope.AgreeOn expr.roots first second) :
    expr.eval first = expr.eval second := by
  induction expr with
  | literal value => rfl
  | path names => simp only [eval, Scope.lookup?_congr agree]
  | comparison operator left right leftIH rightIH =>
      obtain ⟨here, there⟩ := Scope.agreeOn_append.1 agree
      simp only [eval, leftIH here, rightIH there]
  | logic connective left right leftIH rightIH =>
      obtain ⟨here, there⟩ := Scope.agreeOn_append.1 agree
      cases connective <;> simp only [eval, leftIH here, rightIH there]
  | not condition ih => simp only [eval, ih agree]

theorem Expr.eval?_congr {expr : Expr} (agree : Scope.AgreeOn expr.roots first second) :
    expr.eval? first = expr.eval? second := by
  cases expr with
  | path names => exact Scope.lookup?_congr agree
  | _ => exact congrArg some (eval_congr agree)

theorem FilterCall.apply_congr {call : FilterCall} (value : Value)
    (time : first.now = second.now) (agree : Scope.AgreeOn call.roots first second) :
    call.apply config first value = call.apply config second value := by
  obtain ⟨name, argument⟩ := call
  cases argument with
  | none => simp only [apply, Option.map_none, time]
  | some argument =>
      have same : argument.eval first = argument.eval second := Expr.eval_congr agree
      simp only [apply, Option.map_some, same, time]

theorem FilterCall.foldlM_apply_congr {calls : List FilterCall} (value : Value)
    (time : first.now = second.now) (agree : Scope.AgreeOn (calls.flatMap roots) first second) :
    calls.foldlM (apply config first) value = calls.foldlM (apply config second) value := by
  induction calls generalizing value with
  | nil => rfl
  | cons call calls ih =>
      rw [List.flatMap_cons] at agree
      obtain ⟨here, later⟩ := Scope.agreeOn_append.1 agree
      rw [List.foldlM_cons, List.foldlM_cons, apply_congr value time here]
      exact bind_congr fun next => ih next later

end

/-! ## Evaluating against other data -/

/-- The scope with other data behind its local variables. -/
def Scope.withData (other : Context) (scope : Scope) : Scope :=
  { scope with data := other }

/-- The rendering with other data behind its local variables. -/
def Rendering.withData (other : Context) (rendering : Rendering) : Rendering :=
  { rendering with scope := rendering.scope.withData other }

variable {config : Config} {scope : Scope} {other : Context}

theorem Scope.agreeOn_withData {names : List String}
    (agree : Context.AgreeOn names scope.data other) :
    Scope.AgreeOn names (scope.withData other) scope := by
  intro name asked
  rw [get?, get?, withData, agree name asked]

theorem Expr.eval_withData {expr : Expr} (agree : AgreeOn expr.roots scope.data other) :
    expr.eval (scope.withData other) = expr.eval scope :=
  eval_congr (Scope.agreeOn_withData agree)

theorem Output.eval?_withData {output : Output} (agree : AgreeOn output.roots scope.data other) :
    output.eval? config (scope.withData other) = output.eval? config scope := by
  obtain ⟨here, behind⟩ := agreeOn_append.1 agree
  rw [eval?, eval?, Expr.eval?_congr (Scope.agreeOn_withData here)]
  cases output.expr.eval? scope with
  | none => rfl
  | some value =>
      have same : output.filters.foldlM (FilterCall.apply config (scope.withData other)) value =
          output.filters.foldlM (FilterCall.apply config scope) value :=
        FilterCall.foldlM_apply_congr value rfl (Scope.agreeOn_withData behind)
      simp only [same]

theorem Output.text_withData {output : Output} (agree : AgreeOn output.roots scope.data other) :
    output.text config (scope.withData other) = output.text config scope := by
  rw [text, text, eval?_withData agree]

theorem Branch.applies_withData {ν : Type} (branch : Branch ν)
    (agree : AgreeOn (branch.condition.elim [] Expr.roots) scope.data other) :
    branch.applies (scope.withData other) = branch.applies scope := by
  obtain ⟨condition, body⟩ := branch
  cases condition with
  | none => rfl
  | some condition => simp only [applies, Expr.eval_withData agree]

theorem When.applies_withData {ν : Type} (case : When ν) (subject : Value)
    (agree : AgreeOn (case.values.flatMap Expr.roots) scope.data other) :
    case.applies (scope.withData other) subject = case.applies scope subject := by
  rw [Bool.eq_iff_iff, applies, applies, List.any_eq_true, List.any_eq_true]
  refine exists_congr fun value => and_congr_right fun member => ?_
  have here : AgreeOn value.roots scope.data other := fun name asked =>
    agree name (List.mem_flatMap.2 ⟨value, member, asked⟩)
  rw [Expr.eval_withData here]

/-! ## Rendering against other data -/

namespace Node

mutual

theorem render_withData :
    ∀ (node : Node) (rendering : Rendering), node.Everywhere (fun node => ¬ node.isCustom) →
      AgreeOn node.roots rendering.scope.data other →
        render config node (rendering.withData other) =
          (render config node rendering).map (Rendering.withData other)
  | .text content, rendering, _, _ => rfl
  | .output value, rendering, _, agree => by
      have same : value.text config (rendering.scope.withData other) =
          value.text config rendering.scope := Output.text_withData agree
      rw [render, render, Rendering.withData, same]
      cases value.text config rendering.scope <;> rfl
  | .conditional branches, rendering, ⟨_, plain⟩, agree =>
      renderBranches_withData branches rendering plain agree
  | .switch subject cases none, rendering, ⟨_, plain⟩, agree => by
      obtain ⟨asked, agree⟩ := agreeOn_append.1 agree
      have same : subject.eval (rendering.withData other).scope =
          subject.eval rendering.scope := Expr.eval_withData asked
      rw [render, render, same, renderCases_withData _ cases rendering plain agree]
      cases renderCases config (subject.eval rendering.scope) cases rendering <;> rfl
  | .switch subject cases (some body), rendering, ⟨_, plain, last⟩, agree => by
      obtain ⟨asked, agree⟩ := agreeOn_append.1 agree
      obtain ⟨agree, otherwise⟩ := agreeOn_append.1 agree
      have same : subject.eval (rendering.withData other).scope =
          subject.eval rendering.scope := Expr.eval_withData asked
      rw [render, render, same, renderCases_withData _ cases rendering plain agree]
      cases renderCases config (subject.eval rendering.scope) cases rendering with
      | some rendered => rfl
      | none => exact renderBody_withData body rendering last otherwise
  | .capture name body, rendering, ⟨_, plain⟩, agree => by
      have inner := renderBody_withData body { rendering with output := "" } plain agree
      rw [render, render, Rendering.withData]
      dsimp only
      rw [show (⟨rendering.scope.withData other, ""⟩ : Rendering) =
        Rendering.withData other ⟨rendering.scope, ""⟩ from rfl, inner]
      cases renderBody config body ⟨rendering.scope, ""⟩ <;> rfl
  | .assign name value, rendering, _, agree => by
      have same : value.eval? config (rendering.withData other).scope =
          value.eval? config rendering.scope := Output.eval?_withData agree
      rw [render, render, same]
      cases value.eval? config rendering.scope <;> rfl
  | .custom name markup, rendering, plain, _ => absurd rfl plain

theorem renderBody_withData :
    ∀ (nodes : List Node) (rendering : Rendering),
      EverywhereBody (fun node => ¬ node.isCustom) nodes →
        AgreeOn (rootsOfBody nodes) rendering.scope.data other →
          renderBody config nodes (rendering.withData other) =
            (renderBody config nodes rendering).map (Rendering.withData other)
  | [], rendering, _, _ => rfl
  | node :: nodes, rendering, ⟨first, rest⟩, agree => by
      obtain ⟨here, later⟩ := agreeOn_append.1 agree
      rw [renderBody, renderBody, render_withData node rendering first here]
      cases rendered : render config node rendering with
      | error fault => rfl
      | ok next =>
          -- The nodes before have set variables, but the data is still the same.
          have kept : next.scope.data = rendering.scope.data :=
            congrArg Prod.fst (origin_of_render node rendering next rendered)
          exact renderBody_withData nodes next rest (by rwa [kept])

theorem renderBranches_withData :
    ∀ (branches : List (Branch Node)) (rendering : Rendering),
      EverywhereBranches (fun node => ¬ node.isCustom) branches →
        AgreeOn (rootsOfBranches branches) rendering.scope.data other →
          renderBranches config branches (rendering.withData other) =
            (renderBranches config branches rendering).map (Rendering.withData other)
  | [], rendering, _, _ => rfl
  | ⟨condition, body⟩ :: branches, rendering, ⟨first, rest⟩, agree => by
      obtain ⟨asked, agree⟩ := agreeOn_append.1 agree
      obtain ⟨here, later⟩ := agreeOn_append.1 agree
      have same : Branch.applies (rendering.withData other).scope ⟨condition, body⟩ =
          Branch.applies rendering.scope ⟨condition, body⟩ :=
        Branch.applies_withData ⟨condition, body⟩ asked
      rw [renderBranches, renderBranches, same]
      split
      · exact renderBody_withData body rendering first here
      · exact renderBranches_withData branches rendering rest later

theorem renderCases_withData (subject : Value) :
    ∀ (cases : List (When Node)) (rendering : Rendering),
      EverywhereCases (fun node => ¬ node.isCustom) cases →
        AgreeOn (rootsOfCases cases) rendering.scope.data other →
          renderCases config subject cases (rendering.withData other) =
            (renderCases config subject cases rendering).map
              (Except.map (Rendering.withData other))
  | [], rendering, _, _ => rfl
  | ⟨values, body⟩ :: cases, rendering, ⟨first, rest⟩, agree => by
      obtain ⟨asked, agree⟩ := agreeOn_append.1 agree
      obtain ⟨here, later⟩ := agreeOn_append.1 agree
      have same : When.applies (rendering.withData other).scope subject ⟨values, body⟩ =
          When.applies rendering.scope subject ⟨values, body⟩ :=
        When.applies_withData ⟨values, body⟩ subject asked
      rw [renderCases, renderCases, same]
      split
      · exact congrArg some (renderBody_withData body rendering first here)
      · exact renderCases_withData subject cases rendering rest later

end

end Node

end Stencil
