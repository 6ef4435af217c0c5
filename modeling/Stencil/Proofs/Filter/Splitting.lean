import Stencil.Filter.Sequence
import Stencil.Proofs.Text.Splitting

/-!
# Splitting and joining

A text that is split on an argument and joined with it again is what it was, and
what is deleted from a text is what stands between the pieces into which it is
split.
-/

namespace Stencil

theorem Value.map_text_ofText (texts : List (List Char)) :
    (texts.map Value.ofText).map Value.text = texts := by
  induction texts with
  | nil => rfl
  | cons text texts ih => rw [List.map_cons, List.map_cons, Value.text_ofText, ih]

namespace Filter

variable {argument : Value}

theorem textOf?_of_ne_nil (given : argument ≠ .nil) :
    textOf? (some argument) = some argument.text := by
  cases argument with
  | nil => exact absurd rfl given
  | _ => rfl

theorem join_map_ofText (pieces : List (List Char)) (given : argument ≠ .nil) :
    join (.sequence (pieces.map .ofText)) (some argument) =
      .ofText (List.intercalate argument.text pieces) := by
  rw [join, Value.map_text_ofText, textOf?_of_ne_nil given, Option.getD_some]

theorem split_of_text_eq_nil (value : Value) (given : argument ≠ .nil) (empty : argument.text = []) :
    split value (some argument) = .sequence ((value.text.map ([·])).map .ofText) := by
  rw [split, textOf?_of_ne_nil given]
  simp [empty]

theorem split_of_text_ne_nil (value : Value) (given : argument ≠ .nil)
    (nonempty : argument.text ≠ []) :
    split value (some argument) =
      .sequence ((Text.splitOn argument.text nonempty value.text).map .ofText) := by
  rw [split, textOf?_of_ne_nil given]
  simp [nonempty]

theorem remove_of_text_ne_nil (value : Value) (given : argument ≠ .nil)
    (nonempty : argument.text ≠ []) :
    remove value (some argument) = .ofText (Text.delete argument.text nonempty value.text) := by
  simp [remove, textOf?_of_ne_nil given, nonempty]

theorem removeFirst_of_text_ne_nil (value : Value) (given : argument ≠ .nil)
    (nonempty : argument.text ≠ []) :
    removeFirst value (some argument) = .ofText (Text.deleteFirst argument.text value.text) := by
  simp [removeFirst, textOf?_of_ne_nil given, nonempty]

/--
Splitting and joining by the same argument give back the text of a value.  An
empty argument splits it into its characters.  Any other one splits it at the
occurrences that are found from the left; the pieces joined with nothing are the
text without all of them, and the first piece before the other ones, joined again,
is the text without the first one.
-/
theorem join_split (value argument : Value) (given : argument ≠ .nil) :
    join (split value (some argument)) (some argument) = .string value.render ∧
      (argument.text = [] → ∃ pieces, split value (some argument) = .sequence pieces ∧
        pieces.length = value.text.length) ∧
      (argument.text ≠ [] →
        remove value (some argument) = join (split value (some argument)) (some (.string "")) ∧
        ∃ first later, Text.SplitsInto argument.text value.text (first :: later) ∧
          split value (some argument) = .sequence (.ofText first :: later.map .ofText) ∧
          removeFirst value (some argument) =
            .ofText (first ++ (join (.sequence (later.map .ofText)) (some argument)).text)) := by
  have empty : (Value.string "").text = [] := rfl
  by_cases nonempty : argument.text = []
  · have characters := split_of_text_eq_nil value given nonempty
    refine ⟨?_, fun _ => ⟨_, characters, by simp⟩, absurd nonempty⟩
    rw [characters, join_map_ofText _ given, nonempty, Text.intercalate_empty,
      ← List.flatMap_def, List.flatMap_singleton', Value.ofText_text]
  · have splits := Text.splitsInto_splitOn nonempty value.text
    have pieces := split_of_text_ne_nil value given nonempty
    refine ⟨?_, fun isEmpty => absurd isEmpty nonempty, fun _ => ⟨?_, ?_⟩⟩
    · rw [pieces, join_map_ofText _ given, splits.intercalate_eq, Value.ofText_text]
    · rw [remove_of_text_ne_nil value given nonempty, pieces, join_map_ofText _ (by simp), empty,
        Text.intercalate_empty, splits.delete_eq nonempty]
    · obtain ⟨first, later, isSplit⟩ := splits.exists_cons
      rw [isSplit] at splits pieces
      refine ⟨first, later, splits, pieces, ?_⟩
      rw [removeFirst_of_text_ne_nil value given nonempty, splits.deleteFirst_eq,
        join_map_ofText _ given, Value.text_ofText]

/-- Of the two overlapping occurrences in a text only the first one is found. -/
theorem join_split_overlapping :
    let value := Value.sequence [.string "a", .string "aa"]
    let argument := Value.string "aa"
    argument ≠ .nil ∧ split value (some argument) = .sequence [.string "", .string "a"] ∧
      join (split value (some argument)) (some argument) = .string "aaa" ∧
      remove value (some argument) = .string "a" := by
  intro value argument
  have given : argument ≠ .nil := nofun
  have nonempty : argument.text ≠ [] := by decide
  have closed : Text.ClosedBy argument.text [] :=
    Text.closedBy_of_not_infix nonempty (by decide)
  have absent : ¬ argument.text <:+: ['a'] := by decide
  have whole : value.text = [] ++ argument.text ++ ['a'] := by decide
  have splits : Text.SplitsInto argument.text value.text [[], ['a']] := by
    rw [whole]
    exact .piece closed (.last absent)
  have pieces : split value (some argument) = .sequence [.string "", .string "a"] := by
    rw [split_of_text_ne_nil value given nonempty, splits.splitOn_eq nonempty]
    rfl
  obtain ⟨joined, -, deleted⟩ := join_split value argument given
  refine ⟨given, pieces, joined, ?_⟩
  rw [(deleted nonempty).1, pieces]
  rfl

end Filter

end Stencil
