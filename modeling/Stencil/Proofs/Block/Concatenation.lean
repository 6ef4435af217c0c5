import Stencil.Proofs.Block.Outline

/-!
# Marks one after the other

Putting marks together does not look at what stands before the outermost block,
so the nodes of two sequences of marks, each complete on its own, stand one
after the other when the sequences do.
-/

namespace Stencil

namespace Outline

/-- Blocks with their body, and all that stands before the outermost one put behind a base. -/
def onTopOf (base reversed : List Node) : List Enclosing → Outline
  | [] => ⟨reversed ++ base, []⟩
  | block :: blocks =>
      let outer := onTopOf base block.before blocks
      ⟨reversed, ⟨block.frame, outer.reversed⟩ :: outer.blocks⟩

/-- An outline behind a base. -/
def behind (base : List Node) (outline : Outline) : Outline :=
  onTopOf base outline.reversed outline.blocks

theorem behind_push (base : List Node) (outline : Outline) (node : Node) :
    (behind base outline).push node = behind base (outline.push node) := by
  obtain ⟨reversed, blocks⟩ := outline
  cases blocks <;> rfl

theorem behind_turn? (base : List Node) (outline : Outline) (mark : Mark) :
    (behind base outline).turn? mark = (outline.turn? mark).map (behind base) := by
  obtain ⟨reversed, blocks⟩ := outline
  cases blocks with
  | nil => rfl
  | cons block blocks =>
      simp only [behind, onTopOf, turn?, Outline.body, Option.map_map]
      refine congrArg (Option.map · _) (funext fun turn => ?_)
      cases turn with
      | branch frame => rfl
      | close node => exact behind_push base ⟨block.before, blocks⟩ node

/-- A step does not look at the base. -/
theorem behind_add (base : List Node) (outline : Outline) (mark : Mark) :
    (behind base outline).add mark = (outline.add mark).map (behind base) := by
  by_cases isTurn : mark.isTurn
  case pos => rw [add_of_isTurn isTurn, add_of_isTurn isTurn, behind_turn?]
  cases mark with
  | text content => exact congrArg some (behind_push base outline _)
  | output value => exact congrArg some (behind_push base outline _)
  | assign name value => exact congrArg some (behind_push base outline _)
  | custom name markup => exact congrArg some (behind_push base outline _)
  | ifTag negated condition => rfl
  | caseTag subject => rfl
  | captureTag name => rfl
  | _ => exact absurd rfl isTurn

theorem behind_foldlM (base : List Node) (outline : Outline) (marks : List Mark) :
    marks.foldlM add (behind base outline) = (marks.foldlM add outline).map (behind base) := by
  induction marks generalizing outline with
  | nil => rfl
  | cons mark marks ih =>
      rw [List.foldlM_cons, List.foldlM_cons, behind_add]
      cases outline.add mark with
      | none => rfl
      | some next => exact ih next

theorem build_eq_some_iff {marks : List Mark} {nodes : List Node} :
    build marks = some nodes ↔ marks.foldlM add empty = some ⟨nodes.reverse, []⟩ := by
  unfold build finish?
  cases marks.foldlM add empty with
  | none => simp
  | some last =>
      obtain ⟨reversed, blocks⟩ := last
      cases blocks with
      | nil => simp [Outline.body, List.reverse_eq_iff]
      | cons block blocks => simp

/-- A complete sequence of marks adds its nodes to those before it. -/
theorem foldlM_eq_some_iff {base reversed : List Node} {marks : List Mark} :
    marks.foldlM add ⟨base, []⟩ = some ⟨reversed, []⟩ ↔
      ∃ nodes, build marks = some nodes ∧ nodes.reverse ++ base = reversed := by
  change marks.foldlM add (behind base empty) = _ ↔ _
  rw [behind_foldlM, Option.map_eq_some_iff]
  simp only [build_eq_some_iff]
  constructor
  · rintro ⟨⟨known, blocks⟩, run, placed⟩
    cases blocks with
    | nil =>
        cases placed
        exact ⟨known.reverse, by rw [run, List.reverse_reverse], by rw [List.reverse_reverse]⟩
    | cons block blocks => simp [behind, onTopOf] at placed
  · rintro ⟨nodes, run, rfl⟩
    exact ⟨_, run, rfl⟩

theorem build_append {first second : List Mark} {nodes others : List Node}
    (built : build first = some nodes) (following : build second = some others) :
    build (first ++ second) = some (nodes ++ others) := by
  rw [build_eq_some_iff] at built ⊢
  rw [List.foldlM_append, built]
  exact foldlM_eq_some_iff.2 ⟨others, following, by rw [List.reverse_append]⟩

theorem build_text_cons_iff {content : String} {marks : List Mark} {nodes : List Node} :
    build (.text content :: marks) = some nodes ↔
      ∃ more, build marks = some more ∧ nodes = .text content :: more := by
  have first : empty.add (.text content) = some ⟨[.text content], []⟩ := rfl
  rw [build_eq_some_iff, List.foldlM_cons, first, Option.bind_eq_bind, Option.bind_some,
    foldlM_eq_some_iff]
  refine exists_congr fun more => and_congr_right fun _ => ?_
  rw [← List.reverse_inj, List.reverse_append, List.reverse_reverse, List.reverse_reverse]
  exact eq_comm

theorem build_text_concat {content : String} {marks : List Mark} {nodes : List Node}
    (built : build (marks ++ [.text content]) = some nodes) :
    ∃ before, build marks = some before ∧ nodes = before ++ [.text content] := by
  rw [build_eq_some_iff, List.foldlM_append] at built
  obtain ⟨⟨reversed, blocks⟩, run, added⟩ := Option.bind_eq_some_iff.1 built
  have pushed : (⟨.text content :: reversed, blocks⟩ : Outline) = ⟨nodes.reverse, []⟩ := by
    simpa [add, push] using added
  obtain ⟨same, rfl⟩ := Outline.mk.inj pushed
  refine ⟨reversed.reverse, build_eq_some_iff.2 (by rw [run, List.reverse_reverse]), ?_⟩
  rw [← List.reverse_inj, ← same, List.reverse_append, List.reverse_reverse]
  rfl

end Outline

end Stencil
