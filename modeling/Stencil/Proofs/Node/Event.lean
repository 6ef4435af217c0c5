import Stencil.Proofs.Node.Rendering
import Stencil.Template

/-!
# What rendering asks of a configuration

Rendering applies filters to values that only the run determines, and lets
registered tags write.  These are its events, in order.  A run ends with an
output exactly when all filters that it applies have results.
-/

namespace Stencil

/-- What is asked of a configuration while nodes are rendered. -/
inductive Event
  /-- A filter is applied to a value and, where there is one, an argument. -/
  | filter (name : String) (value : Value) (argument : Option Value)
  /-- A registered tag is rendered. -/
  | tag (name : String)

namespace Event

/-- A filter that is applied has a result, unless it is not registered and passed over. -/
def Passes (config : Config) (now : Moment) : Event → Prop
  | .filter name value argument =>
      ∀ filter, config.filter? name = some filter → (filter now value argument).isOk
  | .tag _ => True

/-- Whether what an event asks for is registered. -/
def isRegistered (config : Config) : Event → Bool
  | .filter name _ _ => (config.filter? name).isSome
  | .tag name => (config.tag? name).isSome

end Event

/-! ## The events of a run -/

namespace FilterCall

def event (scope : Scope) (value : Value) (call : FilterCall) : Event :=
  .filter call.name value (call.argument.map (·.eval scope))

/-- The events of filters that a value goes through, up to the first without a result. -/
def events (config : Config) (scope : Scope) : Value → List FilterCall → List Event
  | _, [] => []
  | value, call :: calls =>
      call.event scope value ::
        match call.apply config scope value with
        | .ok next => events config scope next calls
        | .error _ => []

end FilterCall

/-- The events of an output; none for a path without a value. -/
def Output.events (config : Config) (scope : Scope) (output : Output) : List Event :=
  match output.expr.eval? scope with
  | none => []
  | some value => FilterCall.events config scope value output.filters

namespace Node

mutual

def events (config : Config) : Node → Rendering → List Event
  | .text _, _ => []
  | .output value, rendering | .assign _ value, rendering => value.events config rendering.scope
  | .conditional branches, rendering => eventsOfBranches config branches rendering
  | .switch subject cases none, rendering =>
      (eventsOfCases config (subject.eval rendering.scope) cases rendering).getD []
  | .switch subject cases (some body), rendering =>
      (eventsOfCases config (subject.eval rendering.scope) cases rendering).getD
        (eventsOfBody config body rendering)
  | .capture _ body, rendering => eventsOfBody config body { rendering with output := "" }
  | .custom name _, _ => [.tag name]

/-- The events of nodes one after the other, up to the first that cannot be rendered. -/
def eventsOfBody (config : Config) : List Node → Rendering → List Event
  | [], _ => []
  | node :: nodes, rendering =>
      events config node rendering ++
        match render config node rendering with
        | .ok next => eventsOfBody config nodes next
        | .error _ => []

/-- The events of the first branch that applies. -/
def eventsOfBranches (config : Config) : List (Branch Node) → Rendering → List Event
  | [], _ => []
  | ⟨condition, body⟩ :: branches, rendering =>
      if Branch.applies rendering.scope ⟨condition, body⟩ then
        eventsOfBody config body rendering
      else
        eventsOfBranches config branches rendering

/-- The events of the first case that applies to a subject, if one does. -/
def eventsOfCases (config : Config) (subject : Value) :
    List (When Node) → Rendering → Option (List Event)
  | [], _ => none
  | ⟨values, body⟩ :: cases, rendering =>
      if When.applies rendering.scope subject ⟨values, body⟩ then
        some (eventsOfBody config body rendering)
      else
        eventsOfCases config subject cases rendering

end

end Node

/-! ## Runs without a fault -/

section

variable {config : Config} {scope : Scope}

namespace FilterCall

theorem passes_event_iff {value : Value} {call : FilterCall} :
    (call.event scope value).Passes config scope.now ↔ (call.apply config scope value).isOk := by
  simp only [event, Event.Passes, apply]
  cases config.filter? call.name <;> simp

theorem isOk_foldlM_iff {value : Value} {calls : List FilterCall} :
    (calls.foldlM (apply config scope) value).isOk ↔
      ∀ event ∈ events config scope value calls, event.Passes config scope.now := by
  induction calls generalizing value with
  | nil => simp [events, pure, Except.pure]
  | cons call calls ih =>
      rw [events, List.forall_mem_cons, passes_event_iff, List.foldlM_cons]
      cases call.apply config scope value with
      | error fault => simp [bind, Except.bind]
      | ok next => simpa [bind, Except.bind] using ih

end FilterCall

namespace Output

variable {output : Output}

theorem isOk_eval?_iff :
    (output.eval? config scope).isOk ↔
      ∀ event ∈ output.events config scope, event.Passes config scope.now := by
  unfold eval? events
  cases output.expr.eval? scope with
  | none => simp
  | some value =>
      rw [← FilterCall.isOk_foldlM_iff]
      exact iff_of_eq (congrArg (· = true) (Except.isOk_map some _))

theorem isOk_text : (output.text config scope).isOk = (output.eval? config scope).isOk := by
  unfold text
  split
  · next failed => simp [failed]
  · next known => simp [known]
  · next unknown =>
      rw [unknown]
      split <;> rfl

end Output

end

namespace Node

variable {config : Config}

mutual

theorem isOk_render_iff : ∀ (node : Node) (rendering : Rendering),
    (render config node rendering).isOk ↔
      ∀ event ∈ events config node rendering, event.Passes config rendering.scope.now
  | .text content, rendering => by simp [render, events]
  | .output value, rendering => by
      rw [render, events, Except.isOk_map, Output.isOk_text, Output.isOk_eval?_iff]
  | .conditional branches, rendering => isOk_renderBranches_iff branches rendering
  | .switch subject cases none, rendering =>
      isOk_renderCases_iff (subject.eval rendering.scope) cases rendering (by simp)
  | .switch subject cases (some body), rendering =>
      isOk_renderCases_iff (subject.eval rendering.scope) cases rendering
        (isOk_renderBody_iff body rendering)
  | .capture name body, rendering => by
      rw [render, events, Except.isOk_map]
      exact isOk_renderBody_iff body { rendering with output := "" }
  | .assign name value, rendering => by
      rw [render, events, Except.isOk_map, Output.isOk_eval?_iff]
  | .custom name markup, rendering => by
      rw [render, events]
      cases config.tag? name <;> simp [Event.Passes]

theorem isOk_renderBody_iff : ∀ (nodes : List Node) (rendering : Rendering),
    (renderBody config nodes rendering).isOk ↔
      ∀ event ∈ eventsOfBody config nodes rendering, event.Passes config rendering.scope.now
  | [], rendering => by simp [renderBody, eventsOfBody]
  | node :: nodes, rendering => by
      have here := isOk_render_iff node rendering
      rw [renderBody, eventsOfBody, List.forall_mem_append, ← here]
      cases rendered : render config node rendering with
      | error fault => simp
      | ok next =>
          -- The time at which filters are asked is the same behind the node.
          have kept : next.scope.now = rendering.scope.now :=
            congrArg Prod.snd (origin_of_render node rendering next rendered)
          simpa [kept] using isOk_renderBody_iff nodes next

theorem isOk_renderBranches_iff : ∀ (branches : List (Branch Node)) (rendering : Rendering),
    (renderBranches config branches rendering).isOk ↔
      ∀ event ∈ eventsOfBranches config branches rendering,
        event.Passes config rendering.scope.now
  | [], rendering => by simp [renderBranches, eventsOfBranches]
  | ⟨condition, body⟩ :: branches, rendering => by
      rw [renderBranches, eventsOfBranches]
      split
      · exact isOk_renderBody_iff body rendering
      · exact isOk_renderBranches_iff branches rendering

/-- The case that applies is rendered, or something else if none does. -/
theorem isOk_renderCases_iff (subject : Value) :
    ∀ (cases : List (When Node)) (rendering : Rendering)
      {otherwise : Except Fault Rendering} {last : List Event},
      (otherwise.isOk ↔ ∀ event ∈ last, event.Passes config rendering.scope.now) →
        (((renderCases config subject cases rendering).getD otherwise).isOk ↔
          ∀ event ∈ (eventsOfCases config subject cases rendering).getD last,
            event.Passes config rendering.scope.now)
  | [], rendering, otherwise, last, same => same
  | ⟨values, body⟩ :: cases, rendering, otherwise, last, same => by
      rw [renderCases, eventsOfCases]
      split
      · exact isOk_renderBody_iff body rendering
      · exact isOk_renderCases_iff subject cases rendering same

end

end Node

namespace Template

/-- The events of rendering a template against data at a time. -/
def events (template : Template) (data : Context) (now : Moment) : List Event :=
  Node.eventsOfBody template.config template.nodes ⟨.start data now, ""⟩

/-- A template is rendered exactly when every filter that it applies has a result. -/
theorem isOk_render_iff (template : Template) (data : Context) (now : Moment) :
    (template.render data now).isOk ↔
      ∀ event ∈ template.events data now, event.Passes template.config now := by
  rw [render, Except.isOk_map]
  exact Node.isOk_renderBody_iff template.nodes ⟨.start data now, ""⟩

end Template

end Stencil
