import Mathlib.Data.List.Basic
import Mathlib.Data.List.Induction
import Stencil.Sorting

/-!
# Sorting by insertion

Insertion keeps all items, whatever the comparison is.  Where the comparison is
an order of the items the result is ascending, and items that compare equal stay
as they are.  This is what can be expected of any way to sort.
-/

namespace Stencil

variable {α : Type}

/-- A comparison is an order of the items: it has two sides, and to be no greater is transitive. -/
structure IsOrderOn (comparison : α → α → Ordering) (items : List α) : Prop where
  swap : ∀ first ∈ items, ∀ second ∈ items,
    comparison second first = (comparison first second).swap
  trans : ∀ first ∈ items, ∀ middle ∈ items, ∀ last ∈ items, comparison first middle ≠ .gt →
    comparison middle last ≠ .gt → comparison first last ≠ .gt

/-- The items in ascending order, those that compare equal in the order in which they were. -/
structure IsSortedBy (comparison : α → α → Ordering) (sorted items : List α) : Prop where
  perm : sorted.Perm items
  ascending : sorted.Pairwise fun first second => comparison first second ≠ .gt
  stable : ∀ item ∈ items, sorted.filter (comparison · item == .eq) =
    items.filter (comparison · item == .eq)

/--
What a way to sort promises.  It returns the items that it is given, if it does
not fail, and it sorts them where the comparison is an order of them.
-/
structure Sorting.Lawful (sorting : Sorting α) : Prop where
  perm : ∀ {comparison items sorted}, sorting comparison items = some sorted → sorted.Perm items
  sorts : ∀ {comparison items}, IsOrderOn comparison items →
    ∃ sorted, sorting comparison items = some sorted ∧ IsSortedBy comparison sorted items

namespace IsOrderOn

variable {comparison : α → α → Ordering} {items part : List α} {first second : α}

theorem mono (order : IsOrderOn comparison items) (isPart : part ⊆ items) :
    IsOrderOn comparison part where
  swap first isFirst second isSecond := order.swap first (isPart isFirst) second (isPart isSecond)
  trans first isFirst middle isMiddle last isLast :=
    order.trans first (isPart isFirst) middle (isPart isMiddle) last (isPart isLast)

theorem ne_gt_iff (order : IsOrderOn comparison items) (isFirst : first ∈ items)
    (isSecond : second ∈ items) :
    comparison first second ≠ .gt ↔ comparison second first ≠ .lt := by
  rw [order.swap first isFirst second isSecond, ne_eq, ne_eq, Ordering.swap_eq_lt]

/-- An item that compares equal to another one is not less than what is equal to this one. -/
theorem ne_lt_of_eq (order : IsOrderOn comparison items) {middle last : α}
    (isFirst : first ∈ items) (isMiddle : middle ∈ items) (isLast : last ∈ items)
    (firstEqual : comparison first middle = .eq) (lastEqual : comparison last middle = .eq) :
    comparison first last ≠ .lt := by
  rw [← order.ne_gt_iff isLast isFirst]
  refine order.trans last isLast middle isMiddle first isFirst (by simp [lastEqual]) ?_
  rw [order.swap first isFirst middle isMiddle, firstEqual]
  decide

end IsOrderOn

namespace Sorting

variable {comparison : α → α → Ordering} {items : List α}

theorem exists_insertReversed (comparison : α → α → Ordering) (item : α) (reversed : List α) :
    ∃ passed left, reversed = passed ++ left ∧
      insertReversed comparison item reversed = passed ++ item :: left ∧
      (∀ other ∈ passed, comparison item other = .lt) ∧
      ∀ other ∈ left.head?, comparison item other ≠ .lt := by
  induction reversed with
  | nil => exact ⟨[], [], rfl, rfl, by simp, by simp⟩
  | cons greatest smaller hypothesis =>
      by_cases less : comparison item greatest = .lt
      · obtain ⟨passed, left, split, inserted, lesser, stops⟩ := hypothesis
        refine ⟨greatest :: passed, left, congrArg (greatest :: ·) split, ?_,
          List.forall_mem_cons.2 ⟨less, lesser⟩, stops⟩
        rw [insertReversed, if_pos less, inserted, List.cons_append]
      · refine ⟨[], greatest :: smaller, rfl, ?_, by simp, ?_⟩
        · rw [insertReversed, if_neg less, List.nil_append]
        · simpa using less

/--
What the last item does when the others have been sorted: it passes those behind
the last one that it is not less than, and they are all greater.
-/
theorem exists_insertion_concat (comparison : α → α → Ordering) (items : List α) (item : α) :
    ∃ before behind, insertion comparison items = before ++ behind ∧
      insertion comparison (items ++ [item]) = before ++ item :: behind ∧
      (∀ other ∈ behind, comparison item other = .lt) ∧
      ∀ other ∈ before.getLast?, comparison item other ≠ .lt := by
  obtain ⟨passed, left, split, inserted, less, stops⟩ := exists_insertReversed comparison item
    (items.foldl (fun sorted item => insertReversed comparison item sorted) [])
  refine ⟨left.reverse, passed.reverse, ?_, ?_, ?_, ?_⟩
  · rw [insertion, split, List.reverse_append]
  · rw [insertion, List.foldl_concat, inserted]
    simp
  · simpa using less
  · simpa [List.getLast?_reverse] using stops

theorem perm_insertion (comparison : α → α → Ordering) (items : List α) :
    (insertion comparison items).Perm items := by
  induction items using List.reverseRecOn with
  | nil => exact .rfl
  | append_singleton items item hypothesis =>
      obtain ⟨before, behind, sorted, extended, -, -⟩ :=
        exists_insertion_concat comparison items item
      rw [sorted] at hypothesis
      calc insertion comparison (items ++ [item])
        _ = before ++ item :: behind := extended
        _ |>.Perm (item :: (before ++ behind)) := List.perm_middle
        _ |>.Perm (item :: items) := hypothesis.cons item
        _ |>.Perm (items ++ [item]) := (List.perm_append_singleton item items).symm

theorem pairwise_insertion (order : IsOrderOn comparison items) :
    (insertion comparison items).Pairwise fun first second => comparison first second ≠ .gt := by
  induction items using List.reverseRecOn with
  | nil => exact .nil
  | append_singleton items item hypothesis =>
      obtain ⟨before, behind, sorted, extended, less, stops⟩ :=
        exists_insertion_concat comparison items item
      have ascending := hypothesis (order.mono (List.subset_append_left items [item]))
      have members : ∀ other ∈ before ++ behind, other ∈ items ++ [item] := fun other member =>
        List.mem_append_left [item] ((perm_insertion comparison items).subset (sorted ▸ member))
      have isItem : item ∈ items ++ [item] := by simp
      rw [sorted] at ascending
      obtain ⟨ofBefore, ofBehind, across⟩ := List.pairwise_append.1 ascending
      -- The last item that is not passed is the greatest of them.
      have notGreater : ∀ other ∈ before, comparison other item ≠ .gt := by
        intro other member
        obtain rfl | ⟨front, last, rfl⟩ := List.eq_nil_or_concat' before
        · cases member
        have isLast : last ∈ items ++ [item] := members last (by simp)
        have stopped : comparison last item ≠ .gt :=
          (order.ne_gt_iff isLast isItem).2 (stops last (by simp))
        rcases List.mem_append.1 member with inFront | same
        · have isOther := members other (List.mem_append_left behind member)
          exact order.trans other isOther last isLast item isItem
            ((List.pairwise_append.1 ofBefore).2.2 other inFront last (by simp)) stopped
        · rwa [List.mem_singleton.1 same]
      rw [extended, List.pairwise_append, List.pairwise_cons]
      refine ⟨ofBefore, ⟨fun other member => ?_, ofBehind⟩, fun first member =>
        List.forall_mem_cons.2 ⟨notGreater first member, across first member⟩⟩
      simp [less other member]

theorem filter_insertion (order : IsOrderOn comparison items) {middle : α}
    (isMiddle : middle ∈ items) :
    (insertion comparison items).filter (comparison · middle == .eq) =
      items.filter (comparison · middle == .eq) := by
  -- The one that the others are compared with may go in later than they do.
  suffices stays : ∀ part, part ⊆ items →
      (insertion comparison part).filter (comparison · middle == .eq) =
        part.filter (comparison · middle == .eq) from stays items (List.Subset.refl items)
  intro part isPart
  induction part using List.reverseRecOn with
  | nil => rfl
  | append_singleton part item hypothesis =>
      obtain ⟨before, behind, sorted, extended, less, -⟩ :=
        exists_insertion_concat comparison part item
      have others := hypothesis (List.append_subset.1 isPart).1
      rw [sorted, List.filter_append] at others
      rw [extended, List.filter_append, List.filter_append, List.filter_cons]
      by_cases equal : comparison item middle = .eq
      · -- An item that it passed is not equal to it, so it is not equal to the one in the middle.
        have passed : behind.filter (comparison · middle == .eq) = [] := by
          refine List.filter_eq_nil_iff.2 fun other member isEqual => ?_
          have among : other ∈ part :=
            (perm_insertion comparison part).subset (sorted ▸ List.mem_append_right before member)
          refine order.ne_lt_of_eq (isPart (by simp)) isMiddle (isPart ?_) equal
            (by simpa using isEqual) (less other member)
          exact List.mem_append_left [item] among
        rw [passed, List.append_nil] at others
        simp [equal, passed, others]
      · simp [equal, others]

theorem isSortedBy_insertion (order : IsOrderOn comparison items) :
    IsSortedBy comparison (insertion comparison items) items where
  perm := perm_insertion comparison items
  ascending := pairwise_insertion order
  stable _ isItem := filter_insertion order isItem

variable {sorting long : Sorting α}

/-- A lawful way to sort only fails where the comparison is no order. -/
theorem Lawful.not_isOrderOn (lawful : sorting.Lawful) (failed : sorting comparison items = none) :
    ¬ IsOrderOn comparison items := by
  intro order
  obtain ⟨sorted, isSorted, -⟩ := lawful.sorts order
  rw [isSorted] at failed
  cases failed

theorem shortByInsertion_eq_none_iff :
    long.shortByInsertion comparison items = none ↔
      insertionLimit < items.length ∧ long comparison items = none := by
  unfold Sorting.shortByInsertion
  split
  · next short => simp [Nat.not_lt.2 short]
  · next tooLong => simp [Nat.not_le.1 tooLong]

/-- Short lists may be sorted by insertion. -/
theorem Lawful.shortByInsertion (lawful : long.Lawful) : (shortByInsertion long).Lawful where
  perm {comparison items sorted} isSorted := by
    unfold Sorting.shortByInsertion at isSorted
    split at isSorted
    · cases isSorted
      exact perm_insertion comparison items
    · exact lawful.perm isSorted
  sorts {comparison items} order := by
    unfold Sorting.shortByInsertion
    split
    · exact ⟨_, rfl, isSortedBy_insertion order⟩
    · exact lawful.sorts order

theorem lawful_checkedInsertion : (checkedInsertion : Sorting α).Lawful where
  perm {comparison items sorted} isSorted := by
    obtain ⟨-, same⟩ := Option.ite_none_right_eq_some.1 isSorted
    cases same
    exact perm_insertion comparison items
  sorts {comparison items} order :=
    ⟨_, if_pos (pairwise_insertion order), isSortedBy_insertion order⟩

end Sorting

end Stencil
