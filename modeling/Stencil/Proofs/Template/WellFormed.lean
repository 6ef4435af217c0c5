import Mathlib
import Stencil.Proofs.Node.Compilation
import Stencil.Proofs.Node.WellFormed

/-!
# Templates that have been compiled

Whatever compiles has well-formed nodes, at whatever depth, and asks while it
is rendered for nothing but what its configuration has.
-/

namespace Stencil

namespace Template

/--
A template that has been compiled keeps its configuration, all its nodes are
well formed, and whatever it is rendered against, it applies only filters and
renders only tags that are registered.
-/
theorem wellFormed_of_compile {config : Config} {source : String} {template : Template}
    (compiled : compile config source = .ok template) :
    template.config = config ∧
      Node.EverywhereBody (Node.WellFormed template.config) template.nodes ∧
      ∀ data now, ∀ event ∈ template.events data now, event.isRegistered template.config := by
  obtain ⟨found, rfl⟩ := compile_eq_ok_iff.1 compiled
  obtain ⟨segments, marks, scanned, reads, built⟩ := Node.compile_eq_ok_iff.1 found
  have sound := Segment.wellFormed_of_scan scanned reads
  obtain ⟨shaped, walked⟩ := Outline.walk_of_build (fun mark member => (sound mark member).positive)
    built
  have wellFormed : Node.EverywhereBody (Node.WellFormed template.config) template.nodes := by
    refine Node.wellFormed_of_walkBody template.nodes shaped fun mark member => ?_
    rw [walked] at member
    exact sound mark (Mark.mem_of_mem_withoutPreambles member)
  exact ⟨rfl, wellFormed, fun data now =>
    Node.isRegistered_of_mem_eventsOfBody template.nodes ⟨.start data now, ""⟩ wellFormed⟩

/-- An `unless` with an `else`, a filter with an argument, and a registered tag. -/
theorem wellFormed_of_compile_unless :
    let note : CustomTag :=
      { validate := fun _ => .ok (), render := fun markup _ output => output ++ markup }
    let config : Config :=
      { filters := [("append", Filter.ofFunction Filter.append)]
        tags := [("note", note)]
        unreserved := by decide }
    let template : Template :=
      { nodes :=
          [.conditional
            [⟨some (.not (.comparison .equal (.path ["a"]) (.literal .nil))),
                [.output ⟨.path ["a", "b"], [⟨"append", some (.path ["c"])⟩]⟩]⟩,
              ⟨none, [.custom "note" "d"]⟩]]
        config }
    let source :=
      "{% unless a == nil %}\x7b\x7b a.b | append: c \x7d\x7d{% else %}{% note d %}{% endunless %}"
    compile config source = .ok template ∧
      template.config = config ∧
      Node.EverywhereBody (Node.WellFormed template.config) template.nodes ∧
      ∀ data now, ∀ event ∈ template.events data now, event.isRegistered template.config := by
  intro note config template source
  let segments : List Segment :=
    [.block "unless a == nil".toList 3, .output "a.b | append: c".toList 24,
      .block "else".toList 45, .block "note d".toList 55, .block "endunless".toList 67]
  let marks : List Mark :=
    [.ifTag true (.comparison .equal (.path ["a"]) (.literal .nil)),
      .output ⟨.path ["a", "b"], [⟨"append", some (.path ["c"])⟩]⟩, .elseTag,
      .custom "note" "d", .closing (.conditional true)]
  have scanned : Segment.scan source.toList = .ok segments := by decide +kernel
  have reads : segments.mapM (Segment.mark? config) = some marks := by cbv
  have built : Outline.build marks = some template.nodes := by cbv
  have compiled : compile config source = .ok template :=
    compile_eq_ok_iff.2
      ⟨Node.compile_eq_ok_iff.2 ⟨segments, marks, scanned, reads, built⟩, rfl⟩
  exact ⟨compiled, wellFormed_of_compile compiled⟩

end Template

end Stencil
