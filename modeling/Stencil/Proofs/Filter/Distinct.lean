import Mathlib.Data.List.Basic
import Mathlib.Data.List.Induction
import Stencil.Proofs.Value.Equivalence

/-!
# Dropping repeated items

An item is dropped just when one that was kept before it equals it.  Equality is
not transitive, so the items that are kept need not stand for classes of equal
ones: an item is compared with what was kept, and never with what was dropped.
-/

namespace Stencil

namespace Filter

variable {items : List Value} {kept : List (Value × Nat)} {item : Value}

/--
Items of a list, each with its position, such that just those are missing that
equal one of these that stands before them.
-/
structure IsDistinctPart (kept : List (Value × Nat)) (items : List Value) : Prop where
  sublist : kept.Sublist items.zipIdx
  not_mem_iff : ∀ entry ∈ items.zipIdx, entry ∉ kept ↔
    ∃ earlier ∈ kept, earlier.2 < entry.2 ∧ earlier.1.equals entry.1

theorem mem_zipIdx_concat {entry : Value × Nat} :
    entry ∈ (items ++ [item]).zipIdx ↔ entry ∈ items.zipIdx ∨ entry = (item, items.length) := by
  simp [List.zipIdx_append]

namespace IsDistinctPart

theorem position_lt (part : IsDistinctPart kept items) :
    ∀ entry ∈ kept, entry.2 < items.length := by
  intro entry member
  simpa using List.snd_lt_of_mem_zipIdx (part.sublist.subset member)

/-- The last item is missing if one of the others equals it. -/
theorem drop (part : IsDistinctPart kept items) (repeated : ∃ entry ∈ kept, entry.1.equals item) :
    IsDistinctPart kept (items ++ [item]) where
  sublist := by
    rw [List.zipIdx_append]
    exact part.sublist.trans (List.sublist_append_left _ _)
  not_mem_iff := by
    intro entry member
    rcases mem_zipIdx_concat.1 member with before | rfl
    · exact part.not_mem_iff entry before
    · obtain ⟨earlier, found, equal⟩ := repeated
      have position := part.position_lt earlier found
      refine iff_of_true (fun isKept => ?_) ⟨earlier, found, position, equal⟩
      exact Nat.lt_irrefl _ (part.position_lt _ isKept)

/-- The last item is there if none of the others equals it. -/
theorem keep (part : IsDistinctPart kept items) (fresh : ∀ entry ∈ kept, ¬ entry.1.equals item) :
    IsDistinctPart (kept ++ [(item, items.length)]) (items ++ [item]) where
  sublist := by
    rw [List.zipIdx_append, Nat.zero_add]
    exact part.sublist.append_right _
  not_mem_iff := by
    intro entry member
    rcases mem_zipIdx_concat.1 member with before | rfl
    · -- The last item stands behind the entry, so it is neither this nor before it.
      have position : entry.2 < items.length := by simpa using List.snd_lt_of_mem_zipIdx before
      have differs : entry ≠ (item, items.length) := by
        rintro rfl
        exact Nat.lt_irrefl _ position
      rw [List.mem_append, List.mem_singleton, not_or, and_iff_left differs,
        part.not_mem_iff entry before]
      constructor
      · rintro ⟨earlier, found, smaller, equal⟩
        exact ⟨earlier, List.mem_append_left _ found, smaller, equal⟩
      · rintro ⟨earlier, found, smaller, equal⟩
        rcases List.mem_append.1 found with inside | behind
        · exact ⟨earlier, inside, smaller, equal⟩
        · obtain rfl := List.mem_singleton.1 behind
          exact absurd (Nat.lt_trans smaller position) (Nat.lt_irrefl _)
    · refine iff_of_false (not_not_intro (by simp)) ?_
      rintro ⟨earlier, found, smaller, equal⟩
      rcases List.mem_append.1 found with inside | behind
      · exact fresh earlier inside equal
      · obtain rfl := List.mem_singleton.1 behind
        exact Nat.lt_irrefl _ smaller

theorem not_equals_of_lt (part : IsDistinctPart kept items) {first second : Value × Nat}
    (isFirst : first ∈ kept) (isSecond : second ∈ kept) (before : first.2 < second.2) :
    ¬ first.1.equals second.1 := by
  intro equal
  have among := part.sublist.subset isSecond
  exact (part.not_mem_iff second among).2 ⟨first, isFirst, before, equal⟩ isSecond

theorem not_equals (part : IsDistinctPart kept items) {first second : Value × Nat}
    (isFirst : first ∈ kept) (isSecond : second ∈ kept) (apart : first.2 ≠ second.2) :
    ¬ first.1.equals second.1 := by
  rcases Nat.lt_or_gt_of_ne apart with before | behind
  · exact part.not_equals_of_lt isFirst isSecond before
  · rw [Value.equals_comm]
    exact part.not_equals_of_lt isSecond isFirst behind

/-- Every item equals one that is there: itself, or one before it. -/
theorem exists_equals (part : IsDistinctPart kept items) {entry : Value × Nat}
    (member : entry ∈ items.zipIdx) :
    ∃ earlier ∈ kept, earlier.2 ≤ entry.2 ∧ earlier.1.equals entry.1 := by
  by_cases isKept : entry ∈ kept
  · exact ⟨entry, isKept, Nat.le_refl _, Value.equals_self entry.1⟩
  · obtain ⟨earlier, found, before, equal⟩ := (part.not_mem_iff entry member).1 isKept
    exact ⟨earlier, found, Nat.le_of_lt before, equal⟩

/-- An item that equals no earlier one is there. -/
theorem mem_of_first (part : IsDistinctPart kept items) {entry : Value × Nat}
    (member : entry ∈ items.zipIdx)
    (first : ∀ earlier ∈ items.zipIdx, earlier.2 < entry.2 → ¬ earlier.1.equals entry.1) :
    entry ∈ kept := by
  by_contra missing
  obtain ⟨earlier, found, before, equal⟩ := (part.not_mem_iff entry member).1 missing
  exact first earlier (part.sublist.subset found) before equal

/-- Of two items that are there the one in front does not equal the other one. -/
theorem pairwise (part : IsDistinctPart kept items) :
    (kept.map Prod.fst).Pairwise fun first second => ¬ first.equals second := by
  have ascending : items.zipIdx.Pairwise fun first second => first.2 < second.2 := by
    rw [← List.pairwise_map, List.zipIdx_map_snd]
    exact List.pairwise_lt_range'
  rw [List.pairwise_map]
  refine (ascending.sublist part.sublist).imp_of_mem fun isFirst isSecond before => ?_
  exact part.not_equals_of_lt isFirst isSecond before

end IsDistinctPart

theorem addNew_of_equals {others : List Value} (repeated : ∃ other ∈ others, other.equals item) :
    addNew others item = others :=
  if_pos (List.any_eq_true.2 repeated)

theorem addNew_of_not_equals {others : List Value}
    (fresh : ∀ other ∈ others, ¬ other.equals item) : addNew others item = others ++ [item] :=
  if_neg (by simpa using fresh)

theorem exists_isDistinctPart (items : List Value) :
    ∃ kept, IsDistinctPart kept items ∧ items.foldl addNew [] = kept.map Prod.fst := by
  induction items using List.reverseRecOn with
  | nil => exact ⟨[], ⟨.refl _, by simp⟩, rfl⟩
  | append_singleton items item hypothesis =>
      obtain ⟨kept, part, isKept⟩ := hypothesis
      rw [List.foldl_concat, isKept]
      by_cases repeated : ∃ entry ∈ kept, entry.1.equals item
      · refine ⟨kept, part.drop repeated, addNew_of_equals ?_⟩
        simpa using repeated
      · have fresh : ∀ entry ∈ kept, ¬ entry.1.equals item := by simpa using repeated
        refine ⟨_, part.keep fresh, ?_⟩
        rw [List.map_append]
        exact addNew_of_not_equals (by simpa using fresh)

/-- Nothing is dropped from items of which none equals one behind it. -/
theorem foldl_addNew_of_pairwise
    (distinct : items.Pairwise fun first second => ¬ first.equals second) :
    items.foldl addNew [] = items := by
  induction items using List.reverseRecOn with
  | nil => rfl
  | append_singleton items item hypothesis =>
      obtain ⟨others, -, fresh⟩ := List.pairwise_append.1 distinct
      rw [List.foldl_concat, hypothesis others]
      exact addNew_of_not_equals fun other member => fresh other member item (by simp)

/--
Dropping repeated items.  What is kept are items at some of the positions, in
their order, and no two of them are equal.  Just those items are missing that
equal an item that was kept before them, so every item equals one that was kept,
and an item that equals no earlier one was kept itself.  Doing it again does not
change anything.
-/
theorem uniq_distinct (items : List Value) (argument : Option Value) :
    ∃ kept : List (Value × Nat),
      uniq (.sequence items) argument = .sequence (kept.map Prod.fst) ∧
      kept.Sublist items.zipIdx ∧
      (∀ first ∈ kept, ∀ second ∈ kept, first.2 ≠ second.2 → ¬ first.1.equals second.1) ∧
      (∀ entry ∈ items.zipIdx, entry ∉ kept ↔
        ∃ earlier ∈ kept, earlier.2 < entry.2 ∧ earlier.1.equals entry.1) ∧
      (∀ entry ∈ items.zipIdx,
        ∃ earlier ∈ kept, earlier.2 ≤ entry.2 ∧ earlier.1.equals entry.1) ∧
      (∀ entry ∈ items.zipIdx,
        (∀ earlier ∈ items.zipIdx, earlier.2 < entry.2 → ¬ earlier.1.equals entry.1) →
          entry ∈ kept) ∧
      ∀ again, uniq (uniq (.sequence items) argument) again = uniq (.sequence items) argument := by
  obtain ⟨kept, part, isKept⟩ := exists_isDistinctPart items
  have left : uniq (.sequence items) argument = .sequence (kept.map Prod.fst) :=
    congrArg Value.sequence isKept
  refine ⟨kept, left, part.sublist, fun _ isFirst _ isSecond => part.not_equals isFirst isSecond,
    part.not_mem_iff, fun _ => part.exists_equals, fun _ => part.mem_of_first, fun again => ?_⟩
  rw [left]
  exact congrArg Value.sequence (foldl_addNew_of_pairwise part.pairwise)

/--
A double behind one of the two integers that equal it and before the other one,
which are not equal: it is dropped, and both integers are kept.
-/
theorem uniq_distinct_between :
    let first := Value.ofInt 9007199254740993
    let middle := Value.ofDouble (.ofInt 9007199254740992)
    let last := Value.ofInt 9007199254740992
    first.equals middle ∧ middle.equals last ∧ ¬ first.equals last ∧
      ∃ kept : List (Value × Nat),
        uniq (.sequence [first, middle, last]) none = .sequence (kept.map Prod.fst) ∧
        (first, 0) ∈ kept ∧ (middle, 1) ∉ kept ∧ (last, 2) ∈ kept := by
  intro first middle last
  have before : first.equals middle := by decide +kernel
  have behind : middle.equals last := by decide +kernel
  have differs : ¬ first.equals last := by decide +kernel
  -- From here on only how the three compare counts, and no step looks at their digits.
  clear_value first middle last
  obtain ⟨kept, isKept, sublist, -, missing, -, ofFirst, -⟩ :=
    uniq_distinct [first, middle, last] none
  have hasFirst : (first, 0) ∈ kept := ofFirst (first, 0) (by simp) (by simp)
  have lacksMiddle : (middle, 1) ∉ kept :=
    (missing (middle, 1) (by simp)).2 ⟨(first, 0), hasFirst, Nat.zero_lt_one, before⟩
  refine ⟨before, behind, differs, kept, isKept, hasFirst, lacksMiddle, ?_⟩
  by_contra lacksLast
  obtain ⟨earlier, found, position, equal⟩ := (missing (last, 2) (by simp)).1 lacksLast
  have among : earlier = (first, 0) ∨ earlier = (middle, 1) ∨ earlier = (last, 2) := by
    simpa using sublist.subset found
  rcases among with rfl | rfl | rfl
  · exact differs equal
  · exact lacksMiddle found
  · exact (Nat.lt_irrefl 2 position).elim

end Filter

end Stencil
