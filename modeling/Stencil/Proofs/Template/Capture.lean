import Mathlib
import Stencil.Proofs.Block.Nesting
import Stencil.Proofs.Node.Capture
import Stencil.Proofs.Piece.Spelling

/-!
# Captures are faithful

Rendering adds to the output and does not look at it.  So what nodes would write
in some place can be captured there first and written afterwards.
-/

namespace Stencil

open Grammar (isName literalWords)

namespace Node

/-- Nodes between the tags of a capture, and an output of what has been captured. -/
def captureAndWrite (name : String) (body : List Node) : List Node :=
  [.capture name body, .output ⟨.path [name], []⟩]

theorem renderBody_captureAndWrite {config : Config} (name : String) (body : List Node)
    (scope : Scope) (before : String) :
    renderBody config (captureAndWrite name body) ⟨scope, before⟩ =
      (renderBody config body ⟨scope, ""⟩).map fun written =>
        ⟨written.scope.set name (.string written.output), before ++ written.output⟩ := by
  simp only [captureAndWrite, renderBody, render]
  cases renderBody config body ⟨scope, ""⟩ with
  | error fault => rfl
  | ok written =>
      simp only [Except.map, Rendering.set, text_path_set]
      rfl

end Node

namespace Template

/-- The source of a capture of another source, and of an output of what has been captured. -/
def captureSource (name source : String) : String :=
  "\x7b% capture " ++ name ++ " %\x7d" ++ source ++ "{% endcapture %}\x7b\x7b " ++ name ++ " \x7d\x7d"

theorem toList_captureSource {name : String} (named : isName name.toList) (source : String) :
    (captureSource name source).toList =
      (Mark.captureTag name).piece.source ++ (source.toList ++
        ((Mark.closing .capture).piece.source ++
          ((Mark.output ⟨.path [name], []⟩).piece.source ++ []))) := by
  have nonempty : name ≠ "" := by
    rintro rfl
    cases named
  delta captureSource
  simp [Mark.piece, Piece.tag, Piece.source, Piece.enclose, Delimiter.pad,
    Tag.printInside, Output.print, Expr.print, Delimiter.opening, Delimiter.closing,
    BlockKind.opener, BlockKind.closer, nonempty]

theorem compile_captureSource {config : Config} {name source : String} {body : List Node}
    (named : isName name.toList) (other : name.toList ∉ literalWords)
    (compiled : Node.compile config source.toList = .ok body)
    (unbraced : source.toList.getLast? ≠ some '{') :
    Node.compile config (captureSource name source).toList =
      .ok (Node.captureAndWrite name body) := by
  obtain ⟨marks, spelled, built⟩ := Node.compile_eq_ok_iff_spelled.1 compiled
  have writes : (Mark.output ⟨.path [name], []⟩).Printable config :=
    ⟨.primary (.path named other (by simp)), by simp⟩
  have written := spelled.between (@Mark.Printable.denotes config (.closing .capture) trivial)
    (by simp [Mark.piece, Piece.tag, Piece.isText])
    (.cons writes.denotes (by simp [Mark.piece, Piece.isText]) .nil) unbraced
  have whole := Mark.Spelled.cons (@Mark.Printable.denotes config (.captureTag name) named)
    (by simp [Mark.piece, Piece.tag, Piece.isText]) written
  rw [toList_captureSource named, Node.compile_eq_ok_iff_spelled]
  have added : (Outline.empty.push (.capture name body)).add (.output ⟨.path [name], []⟩) =
      some (Outline.empty.extend (Node.captureAndWrite name body)) := rfl
  have leads := (Outline.leads_capture built name .empty).concat added
  rw [List.cons_append, List.append_assoc] at leads
  exact ⟨_, whole, Outline.build_of_leads leads⟩

/--
Captures are faithful.  Nodes without registered tags write the same behind any
output, so between the tags of a capture they bind the text that they would have
written there, for an output of the name to write it, and their other variables
stay.  The text of a capture is nowhere else, so nodes that write only inside
captures, at whatever depth, leave the output as it is.  All this is what
sources say, where the name can be read back.
-/
theorem run_captureSource (config : Config) {body : List Node}
    (untagged : Node.EverywhereBody (fun node => ¬ node.isCustom) body) :
    (∀ scope before, Node.renderBody config body ⟨scope, before⟩ =
      (Node.renderBody config body ⟨scope, ""⟩).map (Rendering.prepend before)) ∧
    (∀ name scope before,
      Node.renderBody config (Node.captureAndWrite name body) ⟨scope, before⟩ =
        (Node.renderBody config body ⟨scope, ""⟩).map fun written =>
          ⟨written.scope.set name (.string written.output), before ++ written.output⟩) ∧
    (∀ front back, Node.EverywhereBody (fun node => ¬ node.isCustom) front →
      Node.EverywhereBody (fun node => ¬ node.isCustom) back → ∀ name scope before,
        Node.renderBody config (front ++ .capture name body :: back) ⟨scope, before⟩ = do
          let first ← Node.renderBody config front ⟨scope, ""⟩
          let captured ← Node.renderBody config body ⟨first.scope, ""⟩
          let last ← Node.renderBody config back
            ⟨captured.scope.set name (.string captured.output), ""⟩
          return ⟨last.scope, before ++ first.output ++ last.output⟩) ∧
    (Node.writesBody body = false → ∀ rendering next : Rendering,
      Node.renderBody config body rendering = .ok next → next.output = rendering.output) ∧
    ∀ source name, compile config source = .ok ⟨body, config⟩ →
      source.toList.getLast? ≠ some '{' → isName name.toList → name.toList ∉ literalWords →
        ∃ template, compile config (captureSource name source) = .ok template ∧
          ∀ data now, template.run data now =
            (Template.run ⟨body, config⟩ data now).map fun written =>
              written.set name (.string written.output) := by
  refine ⟨Node.renderBody_of_untagged untagged,
    fun name => Node.renderBody_captureAndWrite name body,
    fun front back untaggedFront untaggedBack name =>
      Node.renderBody_capture_between untaggedFront untaggedBack name body,
    Node.output_of_renderBody body, ?_⟩
  intro source name compiled unbraced named other
  obtain ⟨compiled, -⟩ := compile_eq_ok_iff.1 compiled
  have whole := compile_captureSource named other compiled unbraced
  refine ⟨⟨Node.captureAndWrite name body, config⟩, compile_eq_ok_iff.2 ⟨whole, rfl⟩, ?_⟩
  intro data now
  rw [run, run]
  dsimp only
  rw [Node.renderBody_captureAndWrite]
  simp only [String.empty_append]
  rfl

/-- A body that captures and writes under the very name under which it is captured. -/
theorem run_captureSource_nested :
    let source := "a{% capture x %}b{% endcapture %}{{ x }}"
    let body : List Node := [.text "a", .capture "x" [.text "b"], .output ⟨.path ["x"], []⟩]
    ∃ template, compile .empty (captureSource "x" source) = .ok template ∧
      ∀ data now, template.run data now =
        (Template.run ⟨body, .empty⟩ data now).map fun written =>
          written.set "x" (.string written.output) := by
  intro source body
  have untagged : Node.EverywhereBody (fun node => ¬ node.isCustom) body := by
    simp [body, Node.EverywhereBody, Node.Everywhere, Node.isCustom]
  exact (run_captureSource .empty untagged).2.2.2.2 source "x" (by cbv) (by decide) (by decide)
    (by decide)

end Template

end Stencil
