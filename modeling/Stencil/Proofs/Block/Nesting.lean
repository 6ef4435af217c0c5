import Stencil.Proofs.Block.Building
import Stencil.Proofs.Block.Concatenation

/-!
# Marks inside blocks

Marks that are complete on their own say the same inside any block: while they
are put together none of them can turn a block around them, because they close
only what they have opened.
-/

namespace Stencil

namespace Outline

/-- Blocks with their body, of which the outermost one stands in the innermost block of another
outline. -/
def stackOn (outer : Outline) (reversed : List Node) : List Enclosing → Outline
  | [] => ⟨reversed ++ outer.reversed, outer.blocks⟩
  | block :: blocks =>
      let around := stackOn outer block.before blocks
      ⟨reversed, ⟨block.frame, around.reversed⟩ :: around.blocks⟩

/-- An outline inside the innermost block of another one. -/
def within (outer outline : Outline) : Outline :=
  stackOn outer outline.reversed outline.blocks

theorem within_push (outer outline : Outline) (node : Node) :
    (within outer outline).push node = within outer (outline.push node) := by
  obtain ⟨reversed, blocks⟩ := outline
  cases blocks <;> rfl

/-- A turn of a block that is open inside is the same one there. -/
theorem turn?_within {outer outline next : Outline} {mark : Mark}
    (turned : outline.turn? mark = some next) :
    (within outer outline).turn? mark = some (within outer next) := by
  obtain ⟨reversed, blocks⟩ := outline
  cases blocks with
  | nil => cases turned
  | cons block blocks =>
      obtain ⟨turn, turns, rfl⟩ := Option.map_eq_some_iff.1 turned
      have same : block.frame.turn? (within outer ⟨reversed, block :: blocks⟩).body mark =
          some turn := turns
      rw [turn?]
      change (block.frame.turn? _ mark).map _ = _
      rw [same]
      cases turn with
      | branch frame => rfl
      | close node => exact congrArg some (within_push outer ⟨block.before, blocks⟩ node)

/-- A step inside is the same one there; a step that fails may be one of the outer blocks. -/
theorem add_within {outer outline next : Outline} {mark : Mark}
    (added : outline.add mark = some next) :
    (within outer outline).add mark = some (within outer next) := by
  by_cases isTurn : mark.isTurn
  case pos =>
    rw [add_of_isTurn isTurn] at added ⊢
    exact turn?_within added
  cases mark with
  | text content | output value | assign name value | custom name markup =>
      cases added
      exact congrArg some (within_push outer outline _)
  | ifTag negated condition | caseTag subject | captureTag name =>
      cases added
      rfl
  | _ => exact absurd rfl isTurn

theorem Leads.within {first last : Outline} {marks : List Mark} (leads : first.Leads marks last)
    (outer : Outline) : (within outer first).Leads marks (within outer last) := by
  induction marks generalizing first with
  | nil =>
      cases leads
      exact leads_nil _
  | cons mark marks ih =>
      obtain ⟨next, added, later⟩ := Option.bind_eq_some_iff.1 leads
      exact .cons (add_within added) (ih later)

/-- A complete sequence of marks adds its nodes to any outline. -/
theorem leads_of_build {marks : List Mark} {nodes : List Node} (built : build marks = some nodes)
    (outline : Outline) : outline.Leads marks (outline.extend nodes) :=
  Leads.within (build_eq_some_iff.1 built) outline

/-- A complete sequence of marks is the body of a block in which it stands. -/
theorem leads_inside_of_build {marks : List Mark} {nodes : List Node}
    (built : build marks = some nodes) (outline : Outline) (frame : Frame) :
    (outline.inside frame []).Leads marks (outline.inside frame nodes) := by
  have filled := leads_of_build built (outline.inside frame [])
  rwa [extend_inside] at filled

/-- A complete sequence of marks between the tags of a capture. -/
theorem leads_capture {marks : List Mark} {nodes : List Node} (built : build marks = some nodes)
    (name : String) (outline : Outline) :
    outline.Leads (.captureTag name :: (marks ++ [.closing .capture]))
      (outline.push (.capture name nodes)) :=
  .cons rfl ((leads_inside_of_build built outline _).concat (outline.add_inside_close rfl rfl))

theorem build_of_leads {marks : List Mark} {nodes : List Node}
    (leads : empty.Leads marks (empty.extend nodes)) : build marks = some nodes := by
  rw [extend, empty, List.append_nil] at leads
  exact build_eq_some_iff.2 leads

end Outline

end Stencil
