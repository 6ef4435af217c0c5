import Stencil.Proofs.Node.Agreement
import Stencil.Template

/-!
# Data that a template does not ask for

What a template without registered tags renders depends on the data only
through the names with which its paths begin.
-/

namespace Stencil

namespace Template

/-- The names for which a template may ask its data. -/
def roots (template : Template) : List String :=
  Node.rootsOfBody template.nodes

/-- Whether no registered tag stands in a template, at whatever depth. -/
def Untagged (template : Template) : Prop :=
  Node.EverywhereBody (fun node => ¬ node.isCustom) template.nodes

theorem run_of_agreeOn {template : Template} (untagged : template.Untagged)
    {first second : Context} (agree : Context.AgreeOn template.roots first second)
    (now : Moment) :
    template.run second now = (template.run first now).map (Rendering.withData second) :=
  Node.renderBody_withData template.nodes ⟨.start first now, ""⟩ untagged agree

/--
Data that agrees on the names for which a template asks is rendered alike:
nothing else in it can influence the output.
-/
theorem render_eq_of_agreeOn {template : Template} (untagged : template.Untagged)
    {first second : Context} (agree : Context.AgreeOn template.roots first second)
    (now : Moment) : template.render first now = template.render second now := by
  rw [render, render, run_of_agreeOn untagged agree now]
  cases template.run first now <;> rfl

/-- A name that the template sets itself, one that is missing, and a secret. -/
theorem render_eq_of_agreeOn_secret :
    let template : Template :=
      { nodes :=
          [.capture "x" [.output ⟨.path ["a", "b"], []⟩],
            .conditional
              [⟨some (.comparison .equal (.path ["x"]) (.path ["c"])), [.text "y"]⟩,
                ⟨none, [.output ⟨.path ["x"], [⟨"append", some (.path ["a", "d"])⟩]⟩]⟩]]
        config := Registry.empty.standard }
    let first : Context := ⟨[("a", .mapping [("b", .string "1")]), ("secret", .string "2")]⟩
    let second : Context := ⟨[("a", .mapping [("b", .string "1")])]⟩
    let now := Moment.ofDate ⟨0⟩
    first.has "secret" ∧ ¬ second.has "secret" ∧ template.Untagged ∧
      Context.AgreeOn template.roots first second ∧
        template.render first now = template.render second now := by
  intro template first second now
  have untagged : template.Untagged := by
    simp [Untagged, template, Node.EverywhereBody, Node.Everywhere, Node.EverywhereBranches,
      Node.isCustom]
  have agree : Context.AgreeOn template.roots first second := by
    simp [Context.AgreeOn, roots, template, Node.rootsOfBody, Node.roots, Node.rootsOfBranches,
      Output.roots, Expr.roots, FilterCall.roots, first, second, Context.get?]
  exact ⟨by decide, by decide, untagged, agree, render_eq_of_agreeOn untagged agree now⟩

end Template

end Stencil
