import Stencil.Filter.Text
import Stencil.Proofs.Text.Cluster

/-!
# Truncating

A text is cut at a cluster, so that with the ellipsis it has as many clusters as
it may.  It can have less, where the ellipsis begins in the last cluster that is
kept, and it never has more.
-/

namespace Stencil

namespace Filter

/-- How many clusters an argument allows: as many as it says, but not less than none. -/
def truncateLength (argument : Option Value) : Nat :=
  (argument.bind Value.signed?).elim truncateDefault Int.toNat

variable {clusters : List Char → List (List Char)}

theorem truncate_eq (value : Value) (argument : Option Value) :
    truncate clusters value argument =
      .ofText (truncateTo clusters (truncateLength argument) value.text) := by
  rw [truncate, truncateLength]
  cases argument.bind Value.signed? <;> rfl

section

variable {text : List Char} {length : Nat}

theorem truncateTo_of_le (fits : (clusters text).length ≤ length) :
    truncateTo clusters length text = text :=
  if_pos fits

theorem truncateTo_of_le_ellipsis (tooLong : length < (clusters text).length)
    (noRoom : length ≤ ellipsis.length) :
    truncateTo clusters length text = ((clusters text).take length).flatten := by
  rw [truncateTo, if_neg (Nat.not_le.2 tooLong), if_pos noRoom]

theorem truncateTo_of_ellipsis_lt (tooLong : length < (clusters text).length)
    (room : ellipsis.length < length) :
    truncateTo clusters length text =
      ((clusters text).take (length - ellipsis.length)).flatten ++ ellipsis := by
  rw [truncateTo, if_neg (Nat.not_le.2 tooLong), if_neg (Nat.not_le.2 room)]

end

/-- A truncated text has no more clusters than it may. -/
theorem length_clusters_truncateTo_le (cuts : Text.LeftToRight clusters) (length : Nat)
    (text : List Char) : (clusters (truncateTo clusters length text)).length ≤ length := by
  by_cases fits : (clusters text).length ≤ length
  · rwa [truncateTo_of_le fits]
  have tooLong := Nat.not_le.1 fits
  by_cases noRoom : length ≤ ellipsis.length
  · rw [truncateTo_of_le_ellipsis tooLong noRoom, cuts.flatten_take]
    exact List.length_take_le _ _
  · have room := Nat.not_le.1 noRoom
    rw [truncateTo_of_ellipsis_lt tooLong room]
    calc
      _ ≤ (clusters ((clusters text).take (length - ellipsis.length)).flatten).length +
          ellipsis.length := cuts.length_append_le _ _
      _ = ((clusters text).take (length - ellipsis.length)).length + ellipsis.length := by
        rw [cuts.flatten_take]
      _ ≤ length - ellipsis.length + ellipsis.length :=
        Nat.add_le_add_right (List.length_take_le _ _) _
      _ = length := Nat.sub_add_cancel (Nat.le_of_lt room)

/--
Truncating a text to a number of clusters, fifty without an argument that is an
integer, and none if it is negative, however the platform cuts texts into
clusters from left to right.  A text with no more clusters stays as it is.  Any
other one is cut before a cluster: if there is room for the ellipsis it stands
behind what is kept, three clusters less.  In no case does the result have more
clusters than that, so truncating it again does not change it.
-/
theorem truncate_clusters (cuts : Text.LeftToRight clusters) (value : Value)
    (argument : Option Value) :
    let length := (argument.bind Value.signed?).elim 50 Int.toNat
    let pieces := clusters value.text
    ∃ result, truncate clusters value argument = .ofText result ∧
      (pieces.length ≤ length → result = value.text) ∧
      (length < pieces.length → length ≤ 3 →
        Text.IsBeforeCluster clusters result value.text length) ∧
      (length < pieces.length → 3 < length →
        ∃ kept, Text.IsBeforeCluster clusters kept value.text (length - 3) ∧
          result = kept ++ ['.', '.', '.']) ∧
      (clusters result).length ≤ length ∧
      truncate clusters (truncate clusters value argument) argument =
        truncate clusters value argument := by
  intro length pieces
  have bounded := length_clusters_truncateTo_le cuts length value.text
  refine ⟨truncateTo clusters length value.text, truncate_eq value argument, truncateTo_of_le, ?_,
    ?_, bounded, ?_⟩
  · intro tooLong noRoom
    rw [truncateTo_of_le_ellipsis tooLong noRoom]
    exact cuts.isBeforeCluster tooLong
  · intro tooLong room
    refine ⟨_, cuts.isBeforeCluster (Nat.lt_of_le_of_lt (Nat.sub_le _ _) tooLong), ?_⟩
    exact truncateTo_of_ellipsis_lt tooLong room
  · rw [truncate_eq value argument, truncate_eq, Value.text_ofText]
    exact congrArg Value.ofText (truncateTo_of_le bounded)

/--
Five clusters by classes of characters cut to four.  The first one is a sign that
belongs to what follows it, so that with the ellipsis behind it there are three
clusters, not four.
-/
theorem truncate_clusters_prepended :
    let value := Value.string "\u0600\n\n\n\n"
    let argument := some (Value.number (.integer 4 (by decide)))
    Text.LeftToRight Text.clusters ∧
      truncate Text.clusters value argument = .string "\u0600..." ∧
      (Text.clusters value.text).length = 5 ∧ (Text.clusters "\u0600...".toList).length = 3 ∧
      truncate Text.clusters (.string "\u0600...") argument = .string "\u0600..." := by
  intro value argument
  have cuts : Text.LeftToRight Text.clusters := Text.leftToRight_clusters
  have kept : truncateTo Text.clusters (truncateLength argument) value.text =
      "\u0600...".toList := by
    decide +kernel
  have shortened : truncate Text.clusters value argument = .string "\u0600..." := by
    rw [truncate_eq, kept, Value.ofText, String.ofList_toList]
  obtain ⟨-, -, -, -, -, -, again⟩ := truncate_clusters cuts value argument
  rw [shortened] at again
  exact ⟨cuts, shortened, by decide +kernel, by decide +kernel, again⟩

end Filter

end Stencil
