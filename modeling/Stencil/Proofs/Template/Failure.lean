import Mathlib
import Stencil.Proofs.Block.Failure
import Stencil.Proofs.Text.Location
import Stencil.Template

/-!
# Reports of sources that cannot be compiled

A source that cannot be compiled is reported with a byte position in one of its
tags, and with a message that opens with the line and the column of this
position.
-/

namespace Stencil

open Checked (Fails)

/-- A problem becomes an error about its source at the position where it was found. -/
theorem Problem.toError_eq_parse {problem : Problem} {source : List Char}
    {found position : Nat} {kind : ParseErrorKind} {message : String}
    (same : problem.toError source found = .parse kind position message) :
    (∀ delimiter, problem ≠ .unterminated delimiter) ∧ found = position ∧
      problem.kind = kind ∧
        message = (Text.Location.of source position).text ++ ": " ++ problem.text := by
  cases problem <;> cases same <;> exact ⟨by simp, rfl, rfl, rfl⟩

namespace Node

/-- What is wrong with a source is in one of its tags, unless a delimiter is never closed. -/
theorem inTag_of_compile {config : Config} {source : List Char} {failure : Located Problem}
    (failed : compile config source = .error failure)
    (terminated : ∀ delimiter, failure.content ≠ .unterminated delimiter) :
    Piece.InTag source failure.position := by
  unfold compile at failed
  cases scanned : Segment.scan source with
  | ok segments =>
      have fails : Fails (fun failure => Piece.InTag source failure.position)
          (ofSegments config segments) :=
        fails_ofSegments config fun _ member _ => Segment.inTag_of_scan scanned member
      rw [scanned] at failed
      exact fails failure failed
  | error reason =>
      rw [scanned] at failed
      cases failed
      obtain ⟨kind, position⟩ := reason
      cases kind with
      | unterminated delimiter => exact absurd rfl (terminated delimiter)
      | unclosed kind => exact Segment.inTag_of_scan_unclosed scanned

end Node

namespace Template

/-- A report of a source: a byte position in one of its tags, and a message that says where. -/
structure Report (source : String) (kind : ParseErrorKind) (position : Nat) (message : String) :
    Prop where
  /-- The position stands between two characters, or at an end. -/
  boundary : String.Pos.Raw.IsValid source ⟨position⟩
  le_size : position ≤ source.utf8ByteSize
  inTag : Piece.InTag source.toList position
  /--
  The message opens, once, with the line and the column behind the text before
  the position; a problem of the kind follows.
  -/
  opens : ∃ before after, ∃ problem : Problem, source = before ++ after ∧
    before.utf8ByteSize = position ∧ problem.kind = kind ∧
    message = toString (before.toList.count '\n' + 1) ++ ":" ++
      toString ((Text.lastLine before.toList).length + 1) ++ ": " ++ problem.text

/-- Every parse error is a report of its source. -/
theorem report_of_compile {config : Config} {source : String} {kind : ParseErrorKind}
    {position : Nat} {message : String}
    (failed : compile config source = .error (.parse kind position message)) :
    Report source kind position message := by
  unfold compile at failed
  split at failed
  · cases failed
  · next failure found =>
      obtain ⟨terminated, rfl, rfl, rfl⟩ :=
        Problem.toError_eq_parse (Except.error.inj failed)
      have inside := Node.inTag_of_compile found terminated
      obtain ⟨before, after, split, width⟩ := inside.exists_append
      have whole : source = String.ofList before ++ String.ofList after := by
        rw [← String.ofList_append, ← split, String.ofList_toList]
      have size : (String.ofList before).utf8ByteSize = failure.position := by
        rw [← Text.width_eq_utf8ByteSize, width]
      refine ⟨?_, ?_, inside, String.ofList before, String.ofList after, failure.content, whole,
        size, rfl, ?_⟩
      · exact String.Pos.Raw.isValid_iff_exists_append.2 ⟨_, _, whole, by rw [← size]; rfl⟩
      · rw [whole, String.utf8ByteSize_append, size]
        exact Nat.le_add_right _ _
      · rw [split, ← width, Text.Location.of_width, String.toList_ofList]
        rfl

/-- An integer out of bounds as the argument of a filter, behind wide characters. -/
theorem report_of_compile_argument :
    let source := "é\n\x7b\x7b 'ü' | plus: 99999999999999999999 \x7d\x7d"
    let message := "2:16: Integer out of bounds: `99999999999999999999`"
    compile Registry.empty.standard source = .error (.parse .malformedExpression 19 message) ∧
      Report source .malformedExpression 19 message := by
  intro source message
  have found : Node.compile Registry.empty.standard source.toList =
      .error ⟨.integerOutOfBounds "99999999999999999999", 19⟩ := by cbv
  have failed : compile Registry.empty.standard source =
      .error (.parse .malformedExpression 19 message) := by
    rw [compile, found]
    exact congrArg Except.error (by decide +kernel)
  exact ⟨failed, report_of_compile failed⟩

end Template

end Stencil
