import Stencil.Proofs.Text.Occurrence

/-!
# Splitting

A needle is found from the left, and then again in what follows.  Splitting a
text and deleting from it, once or everywhere, go by the same occurrences: what
is left by deleting is put together from the pieces.
-/

namespace Stencil

namespace Text

/-- The pieces of a text between the first occurrence of a needle, the first one behind it, and so
on. -/
inductive SplitsInto (needle : List Char) : List Char → List (List Char) → Prop
  | last {text : List Char} (absent : ¬ needle <:+: text) : SplitsInto needle text [text]
  | piece {before rest : List Char} {pieces : List (List Char)} (closed : ClosedBy needle before)
      (later : SplitsInto needle rest pieces) :
      SplitsInto needle (before ++ needle ++ rest) (before :: pieces)

/-- With nothing between them the pieces stand side by side. -/
theorem intercalate_empty (pieces : List (List Char)) :
    List.intercalate [] pieces = pieces.flatten := by
  induction pieces with
  | nil => rfl
  | cons piece others joined =>
      cases others with
      | nil => simp
      | cons next others =>
          rw [List.intercalate_cons_cons, joined, List.append_nil]
          rfl

section Cutting

variable {needle : List Char} (nonempty : needle ≠ [])

theorem splitOn_eq (text : List Char) :
    splitOn needle nonempty text =
      (cut needle text).elim [text] fun parts => parts.1 :: splitOn needle nonempty parts.2 := by
  rw [splitOn]
  split <;> next found => rw [found]; rfl

theorem delete_eq (text : List Char) :
    delete needle nonempty text =
      (cut needle text).elim text fun parts => parts.1 ++ delete needle nonempty parts.2 := by
  rw [delete]
  split <;> next found => rw [found]; rfl

theorem splitsInto_splitOn (text : List Char) :
    SplitsInto needle text (splitOn needle nonempty text) := by
  induction length : text.length using Nat.strongRecOn generalizing text with
  | ind size hypothesis =>
      rw [splitOn_eq]
      cases found : cut needle text with
      | none => exact .last (cut_eq_none_iff.1 found)
      | some parts =>
          obtain ⟨before, rest⟩ := parts
          obtain ⟨whole, closed⟩ := cut_eq_some_iff.1 found
          have shorter : rest.length < size := by
            have fits := length_of_cut found
            have positive := List.length_pos_iff.2 nonempty
            omega
          rw [whole]
          exact .piece closed (hypothesis rest.length shorter rest rfl)

end Cutting

namespace SplitsInto

variable {needle text : List Char} {pieces : List (List Char)}

theorem exists_cons (splits : SplitsInto needle text pieces) :
    ∃ piece later, pieces = piece :: later := by
  cases splits with
  | last absent => exact ⟨_, _, rfl⟩
  | piece closed later => exact ⟨_, _, rfl⟩

/-- The pieces with the needle between them are the text. -/
theorem intercalate_eq (splits : SplitsInto needle text pieces) :
    List.intercalate needle pieces = text := by
  induction splits with
  | last absent => exact List.intercalate_singleton
  | piece closed later joined =>
      obtain ⟨piece, others, rfl⟩ := later.exists_cons
      rw [List.intercalate_cons_cons, joined]

theorem splitOn_eq (splits : SplitsInto needle text pieces) (nonempty : needle ≠ []) :
    splitOn needle nonempty text = pieces := by
  induction splits with
  | last absent => rw [Text.splitOn_eq, cut_eq_none_iff.2 absent, Option.elim_none]
  | piece closed later same => rw [Text.splitOn_eq, closed.cut, Option.elim_some, same]

/-- Without the occurrences of the needle the text consists of the pieces. -/
theorem delete_eq (splits : SplitsInto needle text pieces) (nonempty : needle ≠ []) :
    delete needle nonempty text = pieces.flatten := by
  induction splits with
  | last absent =>
      rw [Text.delete_eq, cut_eq_none_iff.2 absent, Option.elim_none, List.flatten_singleton]
  | piece closed later joined =>
      rw [Text.delete_eq, closed.cut, Option.elim_some, joined, List.flatten_cons]

/-- Without the first occurrence of the needle the first two pieces are joined. -/
theorem deleteFirst_eq {piece : List Char} (splits : SplitsInto needle text (piece :: pieces)) :
    deleteFirst needle text = piece ++ List.intercalate needle pieces := by
  cases splits with
  | last absent =>
      rw [deleteFirst, cut_eq_none_iff.2 absent]
      simp
  | piece closed later => rw [deleteFirst, closed.cut, later.intercalate_eq]

end SplitsInto

end Text

end Stencil
