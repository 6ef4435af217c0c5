import Mathlib
import Stencil.Proofs.Node.Compilation
import Stencil.Proofs.Node.Extension

/-!
# Registering more

Filters and tags that are registered besides those of a configuration change
nothing for the templates that it compiles.
-/

namespace Stencil

namespace Template

/--
What compiles under a configuration compiles to the same nodes under one that
has all its filters and tags and whatever else can be registered, and is
rendered alike.  No tag can be registered under a word of the language, and
wherever such a word stands in a source, no registered tag is taken for it: in
whatever blocks, the tag does what it does with any other tags registered.
-/
theorem compile_of_extends {config extended : Config} (extension : extended.Extends config)
    {source : String} {template : Template} (compiled : compile config source = .ok template) :
    compile extended source = .ok ⟨template.nodes, extended⟩ ∧
      (∀ data now, render ⟨template.nodes, extended⟩ data now = template.render data now) ∧
      (∀ word, Tag.IsKeyword word → ∀ tag, extended.registerTag? word tag = none) ∧
      ∀ (inner : List Char) (position : Nat),
        Tag.IsKeyword (Tag.ofInside inner position).keyword →
          ∀ other : Config, other.filters = extended.filters → ∀ assembly : Assembly,
            assembly.add other (.block inner position) =
              assembly.add extended (.block inner position) := by
  obtain ⟨found, rfl⟩ := compile_eq_ok_iff.1 compiled
  have wellFormed := Node.everywhere_wellFormed_of_compile found
  refine ⟨compile_eq_ok_iff.2 ⟨Node.compile_eq_ok_of_extends extension found, rfl⟩, ?_,
    fun word keyword => extended.registerTag?_of_isKeyword keyword, ?_⟩
  · intro data now
    have same := Node.renderBody_of_extends extension template.nodes ⟨.start data now, ""⟩
      wellFormed
    rw [render, render, run, run, same]
  · intro inner position keyword other filters assembly
    exact Assembly.add_eq_of_isKeyword filters assembly keyword

/-- A tag whose name begins as those of closing tags do, and a filter, are registered besides. -/
theorem compile_of_extends_endless :
    let keep : Filter := fun _ value _ => .ok value
    let note : CustomTag :=
      { validate := fun _ => .ok (), render := fun markup _ output => output ++ markup }
    let config : Config :=
      { filters := [("keep", keep)], tags := [("note", note)], unreserved := by decide }
    let template : Template :=
      { nodes :=
          [.conditional
            [⟨some (.path ["a"]), [.output ⟨.path ["a"], [⟨"keep", none⟩]⟩]⟩,
              ⟨none, [.custom "note" "b"]⟩]]
        config }
    let source := "{% if a %}\x7b\x7b a | keep \x7d\x7d{% else %}{% note b %}{% endif %}"
    ∃ extended, (config.registerFilter "drop" keep).registerTag? "endless" note = some extended ∧
      extended.Extends config ∧ compile config source = .ok template ∧
      compile extended source = .ok ⟨template.nodes, extended⟩ ∧
      (∀ data now, render ⟨template.nodes, extended⟩ data now = template.render data now) ∧
      (∀ word, Tag.IsKeyword word → ∀ tag, extended.registerTag? word tag = none) ∧
      ∀ (inner : List Char) (position : Nat),
        Tag.IsKeyword (Tag.ofInside inner position).keyword →
          ∀ other : Config, other.filters = extended.filters → ∀ assembly : Assembly,
            assembly.add other (.block inner position) =
              assembly.add extended (.block inner position) := by
  intro keep note config template source
  have compiled : compile config source = .ok template := by cbv
  obtain ⟨extended, registered⟩ : ∃ extended,
      (config.registerFilter "drop" keep).registerTag? "endless" note = some extended := ⟨_, rfl⟩
  have extension : extended.Extends config :=
    (Config.Extends.registerTag? rfl registered).trans (Config.Extends.registerFilter rfl keep)
  exact ⟨extended, registered, extension, compiled, compile_of_extends extension compiled⟩

end Template

end Stencil
