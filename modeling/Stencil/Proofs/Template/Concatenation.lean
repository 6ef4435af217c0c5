import Mathlib
import Stencil.Proofs.Block.Concatenation
import Stencil.Proofs.Node.Compilation
import Stencil.Proofs.Node.Rendering
import Stencil.Proofs.Piece.Concatenation

/-!
# Templates compose by concatenation

Two sources that compile can be written one after the other, as long as no
delimiter begins at the end of the first.  The nodes of the second follow those
of the first, and are rendered with the variables that the first has set.
-/

namespace Stencil

namespace Node

/-- Compiled sources without a delimiter across the seam compile when they are joined. -/
theorem exists_compile_append {config : Config} {first second : List Char}
    {nodes others : List Node}
    (compiled : compile config first = .ok nodes)
    (following : compile config second = .ok others)
    (seamless : Piece.Seamless first second) :
    ∃ whole, compile config (first ++ second) = .ok whole ∧
      joinTexts whole = joinTexts (nodes ++ others) := by
  obtain ⟨pieces, marks, tiles, read, built⟩ := compile_eq_ok_iff_tiles.1 compiled
  obtain ⟨behind, more, tilesBehind, readBehind, builtBehind⟩ :=
    compile_eq_ok_iff_tiles.1 following
  have joined := tiles.append tilesBehind seamless
  rcases Piece.join_cases pieces behind with plain | ⟨before, left, right, after, rfl, rfl, seam⟩
  · rw [plain] at joined
    refine ⟨nodes ++ others, compile_eq_ok_iff_tiles.2 ⟨_, marks ++ more, joined, ?_, ?_⟩, rfl⟩
    · exact Piece.marks?_append_eq_some_iff.2 ⟨marks, more, read, readBehind, rfl⟩
    · exact Outline.build_append built builtBehind
  · -- The text runs at the seam become one, and so do the nodes that they are.
    rw [seam] at joined
    obtain ⟨known, last, readBefore, readLeft, rfl⟩ := Piece.marks?_append_eq_some_iff.1 read
    obtain ⟨later, readAfter, rfl⟩ := Piece.marks?_text_cons_eq_some_iff.1 readBehind
    cases readLeft
    obtain ⟨front, builtFront, rfl⟩ := Outline.build_text_concat built
    obtain ⟨back, builtBack, rfl⟩ := Outline.build_text_cons_iff.1 builtBehind
    refine ⟨front ++ .text (String.ofList (left ++ right)) :: back,
      compile_eq_ok_iff_tiles.2 ⟨_, known ++ .text (String.ofList (left ++ right)) :: later,
        joined, ?_, ?_⟩, ?_⟩
    · refine Piece.marks?_append_eq_some_iff.2 ⟨known, _, readBefore, ?_, rfl⟩
      exact Piece.marks?_text_cons_eq_some_iff.2 ⟨later, readAfter, rfl⟩
    · exact Outline.build_append builtFront (Outline.build_text_cons_iff.2 ⟨back, builtBack, rfl⟩)
    · rw [List.append_assoc, String.ofList_append]
      exact joinTexts_append_congr front (joinTexts_text_text _ _ back).symm

end Node

namespace Template

/--
Templates compose by concatenation.  The second source is rendered with the
variables that the first leaves, and its output follows that of the first, when
registered tags do not look at the output before them.
-/
theorem compile_append {config : Config} {first second : String} {front back : Template}
    (compiled : compile config first = .ok front)
    (following : compile config second = .ok back)
    (seamless : Piece.Seamless first.toList second.toList) :
    ∃ whole, compile config (first ++ second) = .ok whole ∧
      Node.joinTexts whole.nodes = Node.joinTexts (front.nodes ++ back.nodes) ∧
      (config.AppendOnly → ∀ data now,
        whole.run data now = do
          let rendering ← front.run data now
          let rest ← Node.renderBody config back.nodes ⟨⟨data, rendering.scope.locals, now⟩, ""⟩
          return rest.prepend rendering.output) := by
  obtain ⟨compiled, rfl⟩ := compile_eq_ok_iff.1 compiled
  obtain ⟨following, -⟩ := compile_eq_ok_iff.1 following
  obtain ⟨whole, joined, same⟩ := Node.exists_compile_append compiled following seamless
  rw [← String.toList_append] at joined
  refine ⟨⟨whole, front.config⟩, compile_eq_ok_iff.2 ⟨joined, rfl⟩, same, ?_⟩
  intro appendOnly data now
  simp only [run]
  rw [← Node.renderBody_joinTexts whole, same, Node.renderBody_joinTexts,
    Node.renderBody_append]
  cases rendered : Node.renderBody front.config front.nodes ⟨.start data now, ""⟩ with
  | error fault => rfl
  | ok rendering =>
      have scope_eq := Node.scope_eq_of_run rendered
      have after := Node.renderBody_prepend appendOnly rendering.output back.nodes
        ⟨rendering.scope, ""⟩
      have same : Rendering.prepend rendering.output ⟨rendering.scope, ""⟩ = rendering := by
        rw [Rendering.prepend, String.append_empty]
      rw [same] at after
      change Node.renderBody front.config back.nodes rendering =
        Node.renderBody front.config back.nodes ⟨⟨data, rendering.scope.locals, now⟩, ""⟩ >>=
          fun rest => pure (rest.prepend rendering.output)
      rw [← scope_eq, after]
      cases Node.renderBody front.config back.nodes ⟨rendering.scope, ""⟩ <;> rfl

/-- Two texts meet at the seam, and the second source uses a variable that the first sets. -/
theorem compile_append_assign :
    let front : Template := ⟨[.assign "x" ⟨.path ["y"], []⟩, .text "a"], .empty⟩
    let back : Template := ⟨[.text "b", .output ⟨.path ["x"], []⟩], .empty⟩
    ∃ whole, compile .empty ("{% assign x = y %}a" ++ "b{{ x }}") = .ok whole ∧
      Node.joinTexts whole.nodes = Node.joinTexts (front.nodes ++ back.nodes) ∧
      (Config.empty.AppendOnly → ∀ data now,
        whole.run data now = do
          let rendering ← front.run data now
          let rest ← Node.renderBody .empty back.nodes ⟨⟨data, rendering.scope.locals, now⟩, ""⟩
          return rest.prepend rendering.output) :=
  compile_append (by cbv) (by cbv) (by simp [Piece.Seamless])

end Template

end Stencil
