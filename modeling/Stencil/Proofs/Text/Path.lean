import Stencil.Proofs.Text.Splitting
import Stencil.Proofs.Text.Trimming

/-!
# Paths

Names that hold no point are found again in the path that they make up, whatever
blanks stand around them.
-/

namespace Stencil

namespace Text

theorem splitPath_of_absent {name : List Char} (plain : '.' ∉ name) :
    splitPath name = [name] := by
  have uncut : cut ['.'] name = none :=
    cut_eq_none_iff.2 fun occurs => plain (occurs.subset (List.mem_singleton_self _))
  rw [splitPath, splitOn_eq, uncut, Option.elim_none]

theorem splitPath_append {name : List Char} (plain : '.' ∉ name) (rest : List Char) :
    splitPath (name ++ '.' :: rest) = name :: splitPath rest := by
  have found : cut ['.'] (name ++ '.' :: rest) = some (name, rest) :=
    cut_eq_some_iff.2 ⟨by simp, closedBy_singleton_iff.2 plain⟩
  rw [splitPath, splitOn_eq, found, Option.elim_some]
  rfl

theorem splitPath_intercalate {names : List (List Char)} (nonempty : names ≠ [])
    (plain : ∀ name ∈ names, '.' ∉ name) :
    splitPath (List.intercalate ['.'] names) = names := by
  induction names with
  | nil => exact absurd rfl nonempty
  | cons name names ih =>
      have first := plain name List.mem_cons_self
      cases names with
      | nil =>
          rw [List.intercalate_singleton]
          exact splitPath_of_absent first
      | cons next names =>
          have later := ih (by simp) fun other member => plain other (List.mem_cons_of_mem _ member)
          rw [List.intercalate_cons_cons, List.append_assoc, List.singleton_append,
            splitPath_append first, later]

/-- A character of a text that is no blank is left when the text is trimmed. -/
theorem mem_trim {text : List Char} {char : Char} (member : char ∈ text)
    (solid : isBlank char = false) : char ∈ trim text := by
  obtain ⟨trailing, whole, blank⟩ := exists_trim_append text
  rw [whole, List.mem_append, List.mem_append] at member
  rcases member with (leading | inside) | behind
  · exact absurd (isBlank_of_mem_leadingBlanks leading) (by simp [solid])
  · exact inside
  · exact absurd (blank char behind) (by simp [solid])

theorem splitPath_intercalate_of_trim {parts : List (List Char)} (nonempty : parts ≠ [])
    (plain : ∀ part ∈ parts, '.' ∉ trim part) :
    splitPath (List.intercalate ['.'] parts) = parts :=
  splitPath_intercalate nonempty fun part member occurs =>
    plain part member (mem_trim occurs (by decide))

end Text

end Stencil
