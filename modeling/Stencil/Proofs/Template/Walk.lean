import Mathlib
import Stencil.Proofs.Block.Simulation
import Stencil.Proofs.Node.WellFormed

/-!
# Compilation keeps the order of the source

The walk over the nodes of a template is what its source says, tag by tag.
-/

namespace Stencil

theorem Segment.positive_of_mark? {config : Config} {segment : Segment} {mark : Mark}
    (reads : segment.mark? config = some mark) : mark.Positive := by
  cases segment with
  | text content =>
      cases reads
      trivial
  | output inner position =>
      obtain ⟨value, -, rfl⟩ := Option.map_eq_some_iff.1 reads
      trivial
  | block inner position => exact (Tag.wellFormed_of_mark? reads).positive

theorem Segment.positive_of_mapM_mark? {config : Config} {segments : List Segment}
    {marks : List Mark} (reads : segments.mapM (mark? config) = some marks) :
    ∀ mark ∈ marks, mark.Positive := by
  intro mark member
  obtain ⟨segment, -, here⟩ := exists_of_mem_mapM_mark? reads member
  exact positive_of_mark? here

namespace Template

/--
A template that has been compiled is its source read in order: the walk over
its nodes is the marks of the segments one after the other, without the texts
in front of the first branch of a case, and blocks are nested in it.
-/
theorem walk_of_compile {config : Config} {source : String} {template : Template}
    (compiled : compile config source = .ok template) :
    ∃ segments marks, Segment.scan source.toList = .ok segments ∧
      segments.mapM (Segment.mark? config) = some marks ∧
      Node.walkBody template.nodes = Mark.withoutPreambles false marks ∧
      Mark.Nested (Node.walkBody template.nodes) := by
  unfold compile at compiled
  split at compiled
  case h_2 => cases compiled
  next nodes found =>
  cases compiled
  obtain ⟨segments, marks, scanned, reads, built⟩ := Node.compile_eq_ok_iff.1 found
  obtain ⟨shaped, walked⟩ :=
    Outline.walk_of_build (Segment.positive_of_mapM_mark? reads) built
  exact ⟨segments, marks, scanned, reads, walked, Node.nested_walkBody nodes shaped⟩

/-- A blank in front of the first branch of a case, and a conditional inside the branch. -/
theorem walk_of_compile_case :
    let template : Template :=
      { nodes :=
          [.switch (.path ["x"])
            [⟨[.path ["y"]],
              [.text "a",
                .conditional
                  [⟨some (.path ["z"]), [.output ⟨.path ["z"], []⟩]⟩, ⟨none, [.text "b"]⟩]]⟩]
            none]
        config := .empty }
    ∃ segments marks,
      Segment.scan
        ("{% case x %} {% when y %}a{% if z %}{{ z }}{% else %}b{% endif %}" ++
          "{% endcase %}").toList = .ok segments ∧
      segments.mapM (Segment.mark? .empty) = some marks ∧
      Node.walkBody template.nodes = Mark.withoutPreambles false marks ∧
      Mark.Nested (Node.walkBody template.nodes) :=
  walk_of_compile (by cbv)

end Template

end Stencil
