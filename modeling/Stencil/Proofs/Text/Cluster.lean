import Mathlib.Data.List.Basic
import Mathlib.Data.List.Induction
import Stencil.Proofs.Text.Slice
import Stencil.Text.Cluster

/-!
# Clusters of parts of a text

Clusters are found from left to right, so what follows a cluster has no part in
it: the first clusters of a text, as a text of their own, are cut as before.
What is written behind a text adds no more clusters than it has characters, and
may add less, where it belongs to the last cluster of the text.
-/

namespace Stencil

namespace Text

/-- One more character begins a piece of its own, or joins the last one. -/
inductive Grows (char : Char) : List (List Char) → List (List Char) → Prop
  | begins (pieces : List (List Char)) : Grows char pieces (pieces ++ [[char]])
  | joins (earlier : List (List Char)) (last : List Char) :
      Grows char (earlier ++ [last]) (earlier ++ [last ++ [char]])

/-- A text is cut into clusters from left to right, whatever decides where they begin. -/
structure LeftToRight (clusters : List Char → List (List Char)) : Prop where
  nil : clusters [] = []
  concat : ∀ text char, Grows char (clusters text) (clusters (text ++ [char]))

namespace Grows

variable {char : Char} {pieces longer : List (List Char)}

theorem cons (piece : List Char) (grows : Grows char pieces longer) :
    Grows char (piece :: pieces) (piece :: longer) := by
  cases grows with
  | begins => exact .begins (piece :: pieces)
  | joins earlier last => exact .joins (piece :: earlier) last

/-- What is put in front of the first piece does not change how the last one grows. -/
theorem prepend (first : Char) {piece grown : List Char}
    (grows : Grows char (piece :: pieces) (grown :: longer)) :
    Grows char ((first :: piece) :: pieces) ((first :: grown) :: longer) := by
  generalize before : piece :: pieces = parts, behind : grown :: longer = more at grows
  cases grows with
  | begins =>
      rw [← before] at behind
      obtain ⟨rfl, rfl⟩ := List.cons.inj behind
      exact .begins ((first :: grown) :: pieces)
  | joins earlier last =>
      cases earlier with
      | nil =>
          cases before
          cases behind
          exact .joins [] (first :: piece)
      | cons head earlier =>
          cases before
          cases behind
          exact .joins ((first :: piece) :: earlier) last

theorem flatten_eq (grows : Grows char pieces longer) :
    longer.flatten = pieces.flatten ++ [char] := by
  cases grows <;> simp

theorem length_le (grows : Grows char pieces longer) : longer.length ≤ pieces.length + 1 := by
  cases grows <;> simp

theorem ne_nil_of_mem (grows : Grows char pieces longer) (solid : ∀ piece ∈ pieces, piece ≠ []) :
    ∀ piece ∈ longer, piece ≠ [] := by
  cases grows with
  | begins => simpa [or_imp, forall_and] using solid
  | joins earlier last =>
      intro piece member
      rcases List.mem_append.1 member with early | late
      · exact solid piece (List.mem_append_left [last] early)
      · simp [List.mem_singleton.1 late]

/-- The first pieces are the same, if not all of them are taken. -/
theorem take_eq (grows : Grows char pieces longer) {count : Nat} (few : count < longer.length) :
    longer.take count = pieces.take count := by
  cases grows with
  | begins =>
      exact List.take_append_of_le_length (by simpa [Nat.lt_succ_iff] using few)
  | joins earlier last =>
      have within : count ≤ earlier.length := by simpa [Nat.lt_succ_iff] using few
      rw [List.take_append_of_le_length within, List.take_append_of_le_length within]

end Grows

namespace LeftToRight

variable {clusters : List Char → List (List Char)} (cuts : LeftToRight clusters)

include cuts

/-- The clusters are pieces of the text, and nothing is lost between them. -/
theorem flatten_eq (text : List Char) : (clusters text).flatten = text := by
  induction text using List.reverseRecOn with
  | nil => simp [cuts.nil]
  | append_singleton text char ih => rw [(cuts.concat text char).flatten_eq, ih]

/-- No cluster is empty. -/
theorem ne_nil_of_mem (text : List Char) : ∀ cluster ∈ clusters text, cluster ≠ [] := by
  induction text using List.reverseRecOn with
  | nil => simp [cuts.nil]
  | append_singleton text char ih => exact (cuts.concat text char).ne_nil_of_mem ih

/-- The first clusters of a text are the clusters of a text of their own. -/
theorem flatten_take (text : List Char) (count : Nat) :
    clusters ((clusters text).take count).flatten = (clusters text).take count := by
  induction text using List.reverseRecOn with
  | nil => simp [cuts.nil]
  | append_singleton text char ih =>
      by_cases few : count < (clusters (text ++ [char])).length
      · rwa [(cuts.concat text char).take_eq few]
      · rw [List.take_of_length_le (Nat.not_lt.1 few), cuts.flatten_eq]

/-- What is written behind a text adds at most a cluster for each of its characters. -/
theorem length_append_le (first second : List Char) :
    (clusters (first ++ second)).length ≤ (clusters first).length + second.length := by
  induction second using List.reverseRecOn with
  | nil => simp
  | append_singleton second char ih =>
      rw [← List.append_assoc, List.length_append, ← Nat.add_assoc]
      exact Nat.le_trans (cuts.concat (first ++ second) char).length_le (Nat.add_le_add_right ih 1)

end LeftToRight

/-! ## Clusters by classes -/

/-- The cluster under way and those after it, when the text goes on. -/
theorem grows_clustersAfter (context : ClusterContext) (text : List Char) (last : Char) :
    Grows last ((clustersAfter context text).1 :: (clustersAfter context text).2)
      ((clustersAfter context (text ++ [last])).1 ::
        (clustersAfter context (text ++ [last])).2) := by
  induction text generalizing context with
  | nil =>
      by_cases joined : context.joins (graphemeClass last)
      · simpa [clustersAfter, joined] using @Grows.joins last [] []
      · simpa [clustersAfter, joined] using @Grows.begins last [[]]
  | cons char chars ih =>
      have tail := ih (context.step (graphemeClass char))
      by_cases joined : context.joins (graphemeClass char)
      · simpa [clustersAfter, joined] using tail.prepend char
      · simpa [clustersAfter, joined] using (tail.prepend char).cons []

theorem leftToRight_clusters : LeftToRight clusters where
  nil := rfl
  concat text last := by
    cases text with
    | nil => exact .begins []
    | cons char chars =>
        exact (grows_clustersAfter (.start (graphemeClass char)) chars last).prepend char

/-! ## Byte positions of clusters -/

/-- Pieces of a text one after the other, each with the byte position at which it begins. -/
def indexed (position : Nat) : List (List Char) → List (Nat × List Char)
  | [] => []
  | piece :: pieces => (position, piece) :: indexed (position + width piece) pieces

theorem getElem?_indexed (position : Nat) (pieces : List (List Char)) (count : Nat) :
    (indexed position pieces)[count]? =
      pieces[count]?.map (position + width (pieces.take count).flatten, ·) := by
  induction pieces generalizing position count with
  | nil => simp [indexed]
  | cons piece pieces ih =>
      cases count with
      | zero => simp [indexed]
      | succ count => simp [indexed, ih, Nat.add_assoc]

/--
The text before one of its clusters: what stands before the byte position at
which this cluster begins, a position inside the text.  It has the clusters that
are before this one.
-/
structure IsBeforeCluster (clusters : List Char → List (List Char)) (kept text : List Char)
    (count : Nat) : Prop where
  position : ∃ position cluster,
    (indexed 0 (clusters text))[count]? = some (position, cluster) ∧
      position < width text ∧ takeWidth position text = some kept
  eq_flatten : kept = ((clusters text).take count).flatten
  clusters_eq : clusters kept = (clusters text).take count

theorem LeftToRight.isBeforeCluster {clusters : List Char → List (List Char)}
    (cuts : LeftToRight clusters) {text : List Char} {count : Nat}
    (inside : count < (clusters text).length) :
    IsBeforeCluster clusters ((clusters text).take count).flatten text count where
  position := by
    have whole : ((clusters text).take count).flatten ++ ((clusters text).drop count).flatten =
        text := by
      rw [← List.flatten_append, List.take_append_drop, cuts.flatten_eq]
    refine ⟨width ((clusters text).take count).flatten, (clusters text)[count], ?_, ?_, ?_⟩
    · rw [getElem?_indexed, List.getElem?_eq_getElem inside, Option.map_some, Nat.zero_add]
    · have positive := width_pos (cuts.ne_nil_of_mem text _ (List.getElem_mem inside))
      have widths := congrArg width whole
      rw [List.drop_eq_getElem_cons inside, List.flatten_cons, width_append, width_append] at widths
      omega
    · have taken := takeWidth_width_append ((clusters text).take count).flatten
        ((clusters text).drop count).flatten
      rwa [whole] at taken
  eq_flatten := rfl
  clusters_eq := cuts.flatten_take text count

end Text

end Stencil
