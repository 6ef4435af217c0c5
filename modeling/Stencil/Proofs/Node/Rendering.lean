import Stencil.Proofs.Checked
import Stencil.Proofs.Node.Shape
import Stencil.Rendering

/-!
# Rendering one after the other

Nodes are rendered from left to right, each from the scope that those before it
leave.  Of the output so far only registered tags could see anything; when they
do not, the output is written as if it began with each node.
-/

namespace Stencil

/-- Registered tags add a text to the output that does not depend on what stands there. -/
def Config.AppendOnly (config : Config) : Prop :=
  ∀ name tag, config.tag? name = some tag → ∀ markup scope output,
    tag.render markup scope output = output ++ tag.render markup scope ""

namespace Scope

/-- What a scope is besides its variables. -/
def origin (scope : Scope) : Context × Moment :=
  (scope.data, scope.now)

theorem eq_of_origin {scope : Scope} {data : Context} {now : Moment}
    (same : scope.origin = (data, now)) : scope = ⟨data, scope.locals, now⟩ := by
  obtain ⟨rfl, rfl⟩ := Prod.mk.inj same
  rfl

end Scope

namespace Rendering

/-- The rendering with a text in front of its output. -/
def prepend (before : String) (rendering : Rendering) : Rendering :=
  { rendering with output := before ++ rendering.output }

@[simp]
theorem prepend_scope (before : String) (rendering : Rendering) :
    (rendering.prepend before).scope = rendering.scope :=
  rfl

theorem prepend_write (before text : String) (rendering : Rendering) :
    (rendering.prepend before).write text = (rendering.write text).prepend before := by
  simp [prepend, write, String.append_assoc]

end Rendering

namespace Node

variable {config : Config}

theorem renderBody_cons_eq_ok_iff {node : Node} {nodes : List Node} {rendering last : Rendering} :
    renderBody config (node :: nodes) rendering = .ok last ↔
      ∃ next, render config node rendering = .ok next ∧ renderBody config nodes next = .ok last := by
  rw [renderBody]
  cases render config node rendering <;> simp

theorem renderBody_append (first second : List Node) (rendering : Rendering) :
    renderBody config (first ++ second) rendering =
      renderBody config first rendering >>= renderBody config second := by
  induction first generalizing rendering with
  | nil => rfl
  | cons node nodes ih =>
      rw [List.cons_append, renderBody, renderBody]
      cases render config node rendering with
      | error fault => rfl
      | ok next => exact ih next

/-! ## Texts -/

/-- Nodes with a text in front, made one with a text that they begin with. -/
def consText (content : String) : List Node → List Node
  | .text more :: nodes => .text (content ++ more) :: nodes
  | nodes => .text content :: nodes

/-- Nodes with adjacent texts made one. -/
def joinTexts : List Node → List Node
  | [] => []
  | .text content :: nodes => consText content (joinTexts nodes)
  | node :: nodes => node :: joinTexts nodes

theorem consText_consText (first second : String) (nodes : List Node) :
    consText first (consText second nodes) = consText (first ++ second) nodes := by
  cases nodes with
  | nil => rfl
  | cons node nodes => cases node <;> simp [consText, String.append_assoc]

theorem joinTexts_text_text (first second : String) (nodes : List Node) :
    joinTexts (.text first :: .text second :: nodes) =
      joinTexts (.text (first ++ second) :: nodes) :=
  consText_consText first second (joinTexts nodes)

theorem joinTexts_append_congr {first second : List Node} (before : List Node)
    (same : joinTexts first = joinTexts second) :
    joinTexts (before ++ first) = joinTexts (before ++ second) := by
  induction before with
  | nil => exact same
  | cons node nodes ih => cases node <;> simp [joinTexts, ih]

theorem renderBody_consText (content : String) (nodes : List Node) (rendering : Rendering) :
    renderBody config (consText content nodes) rendering =
      renderBody config nodes (rendering.write content) := by
  cases nodes with
  | nil => rfl
  | cons node nodes =>
      cases node with
      | text more => simp only [consText, renderBody, render, Rendering.write, String.append_assoc]
      | _ => rfl

/-- How a text is cut into adjacent ones does not show. -/
theorem renderBody_joinTexts (nodes : List Node) (rendering : Rendering) :
    renderBody config (joinTexts nodes) rendering = renderBody config nodes rendering := by
  induction nodes generalizing rendering with
  | nil => rfl
  | cons node nodes ih =>
      cases node with
      | text content =>
          rw [joinTexts, renderBody_consText, ih]
          rfl
      | _ => simp only [joinTexts, renderBody, ih]

/-! ## The output so far -/

/-- A node whose registered tag, if it is one, adds a text that does not depend on the output. -/
def AppendsOnly (config : Config) : Node → Prop
  | .custom name _ => ∀ tag, config.tag? name = some tag → ∀ markup scope output,
      tag.render markup scope output = output ++ tag.render markup scope ""
  | _ => True

theorem appendsOnly_of_config (appendOnly : config.AppendOnly) :
    ∀ node : Node, AppendsOnly config node
  | .custom name _ => appendOnly name
  | .text _ | .output _ | .conditional _ | .switch _ _ _ | .capture _ _ | .assign _ _ => trivial

mutual

theorem render_prepend (before : String) :
    ∀ node : Node, Everywhere (AppendsOnly config) node → ∀ rendering : Rendering,
      render config node (rendering.prepend before) =
        (render config node rendering).map (Rendering.prepend before)
  | .text content, _, rendering => congrArg Except.ok (rendering.prepend_write before content)
  | .output value, _, rendering => by
      simp only [render, Rendering.prepend]
      cases value.text config rendering.scope with
      | error fault => rfl
      | ok text => exact congrArg Except.ok (rendering.prepend_write before text)
  | .conditional branches, ⟨_, inner⟩, rendering =>
      renderBranches_prepend before branches inner rendering
  | .switch subject cases none, ⟨_, inner⟩, rendering => by
      have chosen := renderCases_prepend before (subject.eval rendering.scope) cases inner
        rendering
      rw [render, render, Rendering.prepend_scope, chosen]
      cases renderCases config (subject.eval rendering.scope) cases rendering <;> rfl
  | .switch subject cases (some body), ⟨_, inner, last⟩, rendering => by
      have chosen := renderCases_prepend before (subject.eval rendering.scope) cases inner
        rendering
      rw [render, render, Rendering.prepend_scope, chosen]
      cases renderCases config (subject.eval rendering.scope) cases rendering with
      | some rendered => rfl
      | none => exact renderBody_prepend_of_everywhere before body last rendering
  | .capture name body, _, rendering => by
      simp only [render, Rendering.prepend]
      cases renderBody config body { rendering with output := "" } <;> rfl
  | .assign name value, _, rendering => by
      simp only [render, Rendering.prepend]
      cases value.eval? config rendering.scope <;> rfl
  | .custom name markup, appends, rendering => by
      simp only [render, Rendering.prepend]
      cases registered : config.tag? name with
      | none => rfl
      | some tag =>
          have added := appends tag registered markup rendering.scope
          simp only [Except.map]
          rw [added (before ++ _), added rendering.output, String.append_assoc]
          rfl

theorem renderBody_prepend_of_everywhere (before : String) :
    ∀ nodes : List Node, EverywhereBody (AppendsOnly config) nodes → ∀ rendering : Rendering,
      renderBody config nodes (rendering.prepend before) =
        (renderBody config nodes rendering).map (Rendering.prepend before)
  | [], _, rendering => rfl
  | node :: nodes, ⟨first, rest⟩, rendering => by
      rw [renderBody, renderBody, render_prepend before node first rendering]
      cases render config node rendering with
      | error fault => rfl
      | ok next => exact renderBody_prepend_of_everywhere before nodes rest next

theorem renderBranches_prepend (before : String) :
    ∀ branches : List (Branch Node), EverywhereBranches (AppendsOnly config) branches →
      ∀ rendering : Rendering, renderBranches config branches (rendering.prepend before) =
        (renderBranches config branches rendering).map (Rendering.prepend before)
  | [], _, rendering => rfl
  | ⟨condition, body⟩ :: branches, ⟨here, rest⟩, rendering => by
      rw [renderBranches, renderBranches, Rendering.prepend_scope]
      split
      · exact renderBody_prepend_of_everywhere before body here rendering
      · exact renderBranches_prepend before branches rest rendering

theorem renderCases_prepend (before : String) (subject : Value) :
    ∀ cases : List (When Node), EverywhereCases (AppendsOnly config) cases →
      ∀ rendering : Rendering, renderCases config subject cases (rendering.prepend before) =
        (renderCases config subject cases rendering).map
          (Except.map (Rendering.prepend before))
  | [], _, rendering => rfl
  | ⟨values, body⟩ :: cases, ⟨here, rest⟩, rendering => by
      rw [renderCases, renderCases, Rendering.prepend_scope]
      split
      · exact congrArg some (renderBody_prepend_of_everywhere before body here rendering)
      · exact renderCases_prepend before subject cases rest rendering

end

/-- The output so far stays in front of what nodes write. -/
theorem renderBody_prepend (appendOnly : config.AppendOnly) (before : String)
    (nodes : List Node) (rendering : Rendering) :
    renderBody config nodes (rendering.prepend before) =
      (renderBody config nodes rendering).map (Rendering.prepend before) :=
  renderBody_prepend_of_everywhere before nodes
    (EverywhereBody.of_forall (appendsOnly_of_config appendOnly) nodes) rendering

/-! ## The scope -/

mutual

theorem origin_of_render :
    ∀ (node : Node) (rendering next : Rendering), render config node rendering = .ok next →
      next.scope.origin = rendering.scope.origin
  | .text content, rendering, next, rendered => by
      cases rendered
      rfl
  | .output value, rendering, next, rendered => by
      obtain ⟨text, -, rfl⟩ := Except.map_eq_ok_iff.1 rendered
      rfl
  | .conditional branches, rendering, next, rendered =>
      origin_of_renderBranches branches rendering next rendered
  | .switch subject cases none, rendering, next, rendered => by
      rw [render, Option.getD_eq_iff] at rendered
      rcases rendered with chosen | ⟨-, unchanged⟩
      · exact origin_of_renderCases _ cases rendering next chosen
      · cases unchanged
        rfl
  | .switch subject cases (some body), rendering, next, rendered => by
      rw [render, Option.getD_eq_iff] at rendered
      rcases rendered with chosen | ⟨-, last⟩
      · exact origin_of_renderCases _ cases rendering next chosen
      · exact origin_of_renderBody body rendering next last
  | .capture name body, rendering, next, rendered => by
      obtain ⟨captured, inner, rfl⟩ := Except.map_eq_ok_iff.1 rendered
      exact origin_of_renderBody body { rendering with output := "" } captured inner
  | .assign name value, rendering, next, rendered => by
      obtain ⟨result, -, rfl⟩ := Except.map_eq_ok_iff.1 rendered
      rfl
  | .custom name markup, rendering, next, rendered => by
      rw [render] at rendered
      split at rendered <;> cases rendered <;> rfl

theorem origin_of_renderBody :
    ∀ (nodes : List Node) (rendering next : Rendering),
      renderBody config nodes rendering = .ok next →
        next.scope.origin = rendering.scope.origin
  | [], rendering, next, rendered => by
      cases rendered
      rfl
  | node :: nodes, rendering, next, rendered => by
      obtain ⟨middle, here, later⟩ := renderBody_cons_eq_ok_iff.1 rendered
      rw [origin_of_renderBody nodes middle next later,
        origin_of_render node rendering middle here]

theorem origin_of_renderBranches :
    ∀ (branches : List (Branch Node)) (rendering next : Rendering),
      renderBranches config branches rendering = .ok next →
        next.scope.origin = rendering.scope.origin
  | [], rendering, next, rendered => by
      cases rendered
      rfl
  | ⟨condition, body⟩ :: branches, rendering, next, rendered => by
      rw [renderBranches] at rendered
      split at rendered
      · exact origin_of_renderBody body rendering next rendered
      · exact origin_of_renderBranches branches rendering next rendered

theorem origin_of_renderCases (subject : Value) :
    ∀ (cases : List (When Node)) (rendering next : Rendering),
      renderCases config subject cases rendering = some (.ok next) →
        next.scope.origin = rendering.scope.origin
  | [], rendering, next, rendered => by cases rendered
  | ⟨values, body⟩ :: cases, rendering, next, rendered => by
      rw [renderCases] at rendered
      split at rendered
      · exact origin_of_renderBody body rendering next (Option.some.inj rendered)
      · exact origin_of_renderCases subject cases rendering next rendered

end

/-- A run leaves the data and the moment with which it has begun. -/
theorem scope_eq_of_run {nodes : List Node} {data : Context} {now : Moment} {rendering : Rendering}
    (rendered : renderBody config nodes ⟨.start data now, ""⟩ = .ok rendering) :
    rendering.scope = ⟨data, rendering.scope.locals, now⟩ :=
  Scope.eq_of_origin (origin_of_renderBody nodes _ _ rendered)

end Node

end Stencil
