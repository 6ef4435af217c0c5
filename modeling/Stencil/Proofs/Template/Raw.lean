import Stencil.Proofs.Node.Compilation
import Stencil.Proofs.Node.Rendering
import Stencil.Proofs.Piece.Body
import Stencil.Proofs.Template.Concatenation

/-!
# Raw quotations

A text between the tags of a raw quotation is written as it stands, whatever is
in it besides a tag that closes the quotation, and whatever stands around it.
-/

namespace Stencil

namespace Node

/-- Nothing for a text without characters, else the text. -/
def ofText (content : String) : List Node :=
  if content = "" then [] else [.text content]

theorem renderBody_ofText (config : Config) (content : String) (rendering : Rendering) :
    renderBody config (ofText content) rendering = .ok (rendering.write content) := by
  unfold ofText
  split
  · next empty => rw [empty, Rendering.write, String.append_empty, renderBody]
  · rfl

/-- Behind nodes and a text, others are rendered as they are behind no output. -/
theorem renderBody_append_ofText {config : Config} (appendOnly : config.AppendOnly)
    (front back : List Node) (content : String) (rendering : Rendering) :
    renderBody config (front ++ (ofText content ++ back)) rendering = do
      let middle ← renderBody config front rendering
      let rest ← renderBody config back ⟨middle.scope, ""⟩
      return rest.prepend (middle.output ++ content) := by
  rw [renderBody_append]
  refine bind_congr fun middle => ?_
  have written : middle.write content =
      Rendering.prepend (middle.output ++ content) ⟨middle.scope, ""⟩ := by
    rw [Rendering.prepend, String.append_empty]
    rfl
  rw [renderBody_append, renderBody_ofText]
  calc
    renderBody config back (middle.write content)
    _ = (renderBody config back ⟨middle.scope, ""⟩).map
          (Rendering.prepend (middle.output ++ content)) := by
        rw [written, renderBody_prepend appendOnly]
    _ = renderBody config back ⟨middle.scope, ""⟩ >>= fun rest =>
          pure (rest.prepend (middle.output ++ content)) := by
        cases renderBody config back ⟨middle.scope, ""⟩ <;> rfl

/-- A raw quotation compiles to the text in it. -/
theorem compile_raw {config : Config} {text : List Char} (free : ¬ Quotation.raw.ClosedIn text) :
    compile config (Quotation.raw.piece Quotation.raw.opener text).source =
      .ok (ofText (String.ofList text)) := by
  have unclosed : Quotation.raw.closer ∉ Quotation.firstWords text :=
    fun member => free (Quotation.closedIn_of_mem_firstWords member)
  have wellFormed := @Quotation.wellFormed_piece .raw Quotation.raw.opener text (by decide)
    (by decide) (Quotation.foldlM_depthAfter_raw unclosed 0)
  have tiles := Piece.Tiles.cons wellFormed trivial .nil
  rw [List.append_nil] at tiles
  rw [compile_eq_ok_iff_tiles]
  cases text with
  | nil => exact ⟨_, [], tiles, rfl, rfl⟩
  | cons char chars =>
      have solid : String.ofList (char :: chars) ≠ "" := by simp
      refine ⟨_, [.text (String.ofList (char :: chars))], tiles, rfl, ?_⟩
      rw [ofText, if_neg solid]
      rfl

end Node

namespace Template

/-- A text between the tags of a raw quotation. -/
def quoteRaw (text : String) : String :=
  "{% raw %}" ++ text ++ "{% endraw %}"

theorem toList_quoteRaw (text : String) :
    (quoteRaw text).toList = (Quotation.raw.piece Quotation.raw.opener text.toList).source := by
  rw [quoteRaw, String.toList_append, String.toList_append]
  rfl

/-- No delimiter begins at the end of a raw quotation. -/
theorem seamless_quoteRaw (text : String) (second : List Char) :
    Piece.Seamless (quoteRaw text).toList second := by
  intro brace
  rw [quoteRaw, String.toList_append, List.getLast?_append] at brace
  simp at brace

theorem compile_quoteRaw {config : Config} {text : String}
    (free : ¬ Quotation.raw.ClosedIn text.toList) :
    Node.compile config (quoteRaw text).toList = .ok (Node.ofText text) := by
  rw [toList_quoteRaw, Node.compile_raw free, String.ofList_toList]

/--
Raw quotations are faithful.  A text in which no tag closes a raw quotation
compiles to itself between the tags of one, and between two sources that compile
it is written as it stands, behind the first and before the second, which is
rendered with the variables that the first leaves.  Delimiters that nothing
closes, the tags of other quotations and the beginning of a closing tag may
stand in the text.
-/
theorem compile_quoteRaw_between {config : Config} {text : String}
    (free : ¬ Quotation.raw.ClosedIn text.toList) :
    compile config (quoteRaw text) = .ok ⟨Node.ofText text, config⟩ ∧
      ∀ first second front back, compile config first = .ok front →
        compile config second = .ok back → first.toList.getLast? ≠ some '{' →
          ∃ whole, compile config (first ++ quoteRaw text ++ second) = .ok whole ∧
            (config.AppendOnly → ∀ data now,
              whole.run data now = do
                let rendering ← front.run data now
                let rest ←
                  Node.renderBody config back.nodes ⟨⟨data, rendering.scope.locals, now⟩, ""⟩
                return rest.prepend (rendering.output ++ text)) := by
  have quoted := @compile_quoteRaw config text free
  refine ⟨compile_eq_ok_iff.2 ⟨quoted, rfl⟩, ?_⟩
  intro first second front back compiled following unbraced
  obtain ⟨compiled, rfl⟩ := compile_eq_ok_iff.1 compiled
  obtain ⟨following, -⟩ := compile_eq_ok_iff.1 following
  have unseamed : Piece.Seamless first.toList ((quoteRaw text).toList ++ second.toList) :=
    fun brace => absurd brace unbraced
  obtain ⟨behind, joinedBehind, sameBehind⟩ :=
    Node.exists_compile_append quoted following (seamless_quoteRaw text second.toList)
  obtain ⟨whole, joined, same⟩ :=
    Node.exists_compile_append compiled joinedBehind unseamed
  rw [← String.toList_append, ← String.toList_append, ← String.append_assoc] at joined
  refine ⟨⟨whole, front.config⟩, compile_eq_ok_iff.2 ⟨joined, rfl⟩, ?_⟩
  intro appendOnly data now
  have parts : Node.joinTexts whole =
      Node.joinTexts (front.nodes ++ (Node.ofText text ++ back.nodes)) :=
    same.trans (Node.joinTexts_append_congr front.nodes sameBehind)
  simp only [run]
  rw [← Node.renderBody_joinTexts whole, parts, Node.renderBody_joinTexts,
    Node.renderBody_append_ofText appendOnly]
  cases rendered : Node.renderBody front.config front.nodes ⟨.start data now, ""⟩ with
  | error fault => rfl
  | ok rendering =>
      exact congrArg (fun scope => Node.renderBody front.config back.nodes ⟨scope, ""⟩ >>=
        fun rest => pure (rest.prepend (rendering.output ++ text))) (Node.scope_eq_of_run rendered)

/-- Delimiters that nothing closes, a comment, and closing tags that are broken off. -/
theorem compile_quoteRaw_between_unclosed :
    let text := "\x7b% endraw\x7b% endrawé %\x7d{% comment %}\x7b\x7b x\x7b% endraw"
    let front : Template := ⟨[.assign "x" ⟨.path ["y"], []⟩, .text "a"], .empty⟩
    let back : Template := ⟨[.text "b", .output ⟨.path ["x"], []⟩], .empty⟩
    compile .empty (quoteRaw text) = .ok ⟨[.text text], .empty⟩ ∧
      ∃ whole,
        compile .empty ("{% assign x = y %}a" ++ quoteRaw text ++ "b{{ x }}") = .ok whole ∧
          ∀ data now,
            whole.run data now = do
              let rendering ← front.run data now
              let rest ←
                Node.renderBody .empty back.nodes ⟨⟨data, rendering.scope.locals, now⟩, ""⟩
              return rest.prepend (rendering.output ++ text) := by
  intro text front back
  have free : ¬ Quotation.raw.ClosedIn text.toList := by decide +kernel
  obtain ⟨alone, between⟩ := @compile_quoteRaw_between .empty text free
  obtain ⟨whole, compiled, renders⟩ := between "{% assign x = y %}a" "b{{ x }}" front back
    (by cbv) (by cbv) (by decide)
  have appendOnly : Config.empty.AppendOnly := by
    intro name tag registered
    cases registered
  exact ⟨alone, whole, compiled, renders appendOnly⟩

end Template

end Stencil
