import Mathlib.Data.List.DropRight
import Stencil.Proofs.Text.Slice

/-!
# Lines and columns

The line of a place counts the line ends before it, and its column the
characters behind the last of these.
-/

namespace Stencil

namespace Text

/-- What stands behind the last line end of a text. -/
def lastLine (text : List Char) : List Char :=
  text.rtakeWhile (· ≠ '\n')

theorem lastLine_concat (text : List Char) (char : Char) :
    lastLine (text ++ [char]) = if char = '\n' then [] else lastLine text ++ [char] := by
  by_cases lineEnd : char = '\n' <;> simp [lastLine, lineEnd]

namespace Location

theorem after_concat (text : List Char) (char : Char) :
    after (text ++ [char]) = (after text).advance char :=
  List.foldl_append

theorem after_eq (text : List Char) :
    after text = ⟨text.count '\n' + 1, (lastLine text).length + 1⟩ := by
  induction text using List.reverseRecOn with
  | nil => rfl
  | append_singleton text char ih =>
      rw [after_concat, ih, lastLine_concat, List.count_append, advance]
      by_cases lineEnd : char = '\n' <;> simp [lineEnd]

/-- The place behind a text with which a source begins. -/
theorem of_width (before rest : List Char) :
    of (before ++ rest) (width before) =
      ⟨before.count '\n' + 1, (lastLine before).length + 1⟩ := by
  rw [of, takeWidth_width_append, Option.getD_some, after_eq]

end Location

end Text

end Stencil
