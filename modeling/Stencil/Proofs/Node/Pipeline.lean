import Stencil.Proofs.Node.Agreement

/-!
# Filters on both sides of an assign

A value that goes through some filters, is bound to a name and is then written
through more filters is written as if it had gone through all of them at once,
when the arguments of the later filters do not ask for the name.  A path without
a value goes through no filter at all.
-/

namespace Stencil

namespace Scope

/-- A variable that is set matters only to those who ask for its name. -/
theorem agreeOn_set {names : List String} {name : String} (absent : name ∉ names) (scope : Scope)
    (value : Value) : AgreeOn names (scope.set name value) scope := by
  intro asked member
  rw [get?_set, if_neg (ne_of_mem_of_not_mem member absent)]

end Scope

namespace Output

variable {config : Config} {scope : Scope} {expr : Expr}

theorem eval?_of_known {value : Value} (known : expr.eval? scope = some value)
    (filters : List FilterCall) :
    eval? config scope ⟨expr, filters⟩ =
      (filters.foldlM (FilterCall.apply config scope) value).map some := by
  simp only [eval?, known]

theorem text_of_known {value : Value} (known : expr.eval? scope = some value)
    (filters : List FilterCall) :
    text config scope ⟨expr, filters⟩ =
      (filters.foldlM (FilterCall.apply config scope) value).map Value.render := by
  rw [text, eval?_of_known known]
  cases filters.foldlM (FilterCall.apply config scope) value <;> rfl

theorem eval?_of_unknown (unknown : expr.eval? scope = none) (filters : List FilterCall) :
    eval? config scope ⟨expr, filters⟩ = .ok none := by
  simp only [eval?, unknown]

/-- Only a path can be without a value. -/
theorem exists_path_of_unknown (unknown : expr.eval? scope = none) :
    ∃ names, expr = .path names := by
  cases expr with
  | path names => exact ⟨names, rfl⟩
  | _ => cases unknown

end Output

namespace Node

variable {config : Config} {rendering : Rendering} {expr : Expr}

/-- The value itself is bound, and it goes on from there through the later filters. -/
theorem renderBody_assign_output {value : Value} {name : String} {filters more : List FilterCall}
    (known : expr.eval? rendering.scope = some value)
    (absent : name ∉ more.flatMap FilterCall.roots) :
    renderBody config [.assign name ⟨expr, filters⟩, .output ⟨.path [name], more⟩] rendering = do
      let bound ← filters.foldlM (FilterCall.apply config rendering.scope) value
      let written ← renderBody config [.output ⟨expr, filters ++ more⟩] rendering
      return written.set name bound := by
  simp only [renderBody, render, Output.eval?_of_known known, Output.text_of_known known,
    List.foldlM_append]
  cases filters.foldlM (FilterCall.apply config rendering.scope) value with
  | error fault => rfl
  | ok bound =>
      have again : Output.text config (rendering.scope.set name bound) ⟨.path [name], more⟩ =
          (more.foldlM (FilterCall.apply config rendering.scope) bound).map Value.render := by
        have found : Expr.eval? (rendering.scope.set name bound) (.path [name]) = some bound :=
          rendering.scope.lookup?_set name bound []
        rw [Output.text_of_known found]
        exact congrArg (Except.map Value.render)
          (FilterCall.foldlM_apply_congr bound rfl (Scope.agreeOn_set absent rendering.scope bound))
      simp only [Except.map, Option.getD_some, Rendering.set, again, bind, Except.bind]
      cases more.foldlM (FilterCall.apply config rendering.scope) bound <;> rfl

/-- A path without a value: an output writes its placeholder, and an assign binds nil. -/
theorem render_of_unknown (unknown : expr.eval? rendering.scope = none) :
    ∃ names, expr = .path names ∧ ∀ filters,
      render config (.output ⟨expr, filters⟩) rendering =
          .ok (rendering.write (Output.placeholder names)) ∧
        ∀ name, render config (.assign name ⟨expr, filters⟩) rendering =
          .ok (rendering.set name .nil) := by
  obtain ⟨names, rfl⟩ := Output.exists_path_of_unknown unknown
  refine ⟨names, rfl, fun filters => ⟨?_, fun name => ?_⟩⟩
  · rw [render, Output.text, Output.eval?_of_unknown unknown]
    rfl
  · rw [render, Output.eval?_of_unknown unknown]
    rfl

end Node

end Stencil
