import Stencil.Proofs.Filter.Insertion

/-!
# Sorting where there is an order

Among items on which the order of values is one, sorting does what is expected
of a stable sort, and it could not do anything else.
-/

namespace Stencil

open Value (NotGreater Tied)

namespace Value

instance : DecidableRel NotGreater := fun first second =>
  inferInstanceAs (Decidable (first.order? second ≠ some .gt))

theorem exists_number_of_signed? {value : Value} {signed : Int}
    (isSigned : value.signed? = some signed) :
    ∃ number, value = .number number ∧ number.signed? = some signed := by
  cases value with
  | number number => exact ⟨number, rfl, isSigned⟩
  | _ => cases isSigned

theorem notGreater_refl (value : Value) : value.NotGreater value := fun greater => by
  have less := order?_eq_gt_iff.1 greater
  rw [greater] at less
  cases less

/-- Whether another value has an order with a value and compares equal to it. -/
def ranksAs (value other : Value) : Bool :=
  other.order? value == some .eq

end Value

/-- The order of values is one among the items: all have it, and not to be greater is transitive. -/
structure Sortable (items : List Value) : Prop where
  ordered : ∀ first ∈ items, ∀ second ∈ items, (first.order? second).isSome
  trans : ∀ first ∈ items, ∀ middle ∈ items, ∀ last ∈ items,
    first.NotGreater middle → middle.NotGreater last → first.NotGreater last

/-- The items in ascending order, those that compare equal in the order in which they were. -/
structure IsSorting (sorted items : List Value) : Prop where
  perm : sorted.Perm items
  ascending : sorted.Pairwise NotGreater
  stable : ∀ item ∈ items, sorted.filter item.ranksAs = items.filter item.ranksAs

namespace Sortable

variable {items part : List Value} {first middle last : Value}

theorem mono (sortable : Sortable items) (isPart : part ⊆ items) : Sortable part where
  ordered first isFirst second isSecond :=
    sortable.ordered first (isPart isFirst) second (isPart isSecond)
  trans first isFirst middle isMiddle last isLast :=
    sortable.trans first (isPart isFirst) middle (isPart isMiddle) last (isPart isLast)

theorem equal_of_notGreater (sortable : Sortable items) (isFirst : first ∈ items)
    (isLast : last ∈ items) (notGreater : first.NotGreater last)
    (notLess : last.NotGreater first) : first.order? last = some .eq := by
  obtain ⟨order, isOrder⟩ := Option.isSome_iff_exists.1 (sortable.ordered first isFirst last isLast)
  cases order with
  | eq => exact isOrder
  | lt => exact absurd isOrder (Value.notGreater_iff.1 notLess)
  | gt => exact absurd isOrder notGreater

/-- Two lists of the same items begin alike if both begin with the first of the least items. -/
theorem head_eq {least other : Value} {rest others : List Value}
    (sortable : Sortable (least :: rest)) (perm : (least :: rest).Perm (other :: others))
    (leastFits : ∀ item ∈ rest, least.NotGreater item)
    (otherFits : ∀ item ∈ others, other.NotGreater item)
    (stable : (least :: rest).filter least.ranksAs = (other :: others).filter least.ranksAs) :
    least = other := by
  have isOther : other ∈ least :: rest := perm.symm.subset List.mem_cons_self
  have isLeast : least ∈ other :: others := perm.subset List.mem_cons_self
  rcases List.mem_cons.1 isOther with same | behind
  · exact same.symm
  rcases List.mem_cons.1 isLeast with same | further
  · exact same
  have self := sortable.equal_of_notGreater List.mem_cons_self List.mem_cons_self
    (Value.notGreater_refl least) (Value.notGreater_refl least)
  have equal := sortable.equal_of_notGreater isOther List.mem_cons_self (otherFits least further)
    (leastFits other behind)
  rw [List.filter_cons_of_pos (by simp [Value.ranksAs, self]),
    List.filter_cons_of_pos (by simp [Value.ranksAs, equal])] at stable
  exact (List.cons.inj stable).1

/-- Only one order of the items is ascending and leaves those that compare equal as they are. -/
theorem eq_of_filter_eq {left right : List Value} (sortable : Sortable left)
    (perm : left.Perm right) (leftAscending : left.Pairwise NotGreater)
    (rightAscending : right.Pairwise NotGreater)
    (stable : ∀ item ∈ left, left.filter item.ranksAs = right.filter item.ranksAs) :
    left = right := by
  induction left generalizing right with
  | nil => exact perm.nil_eq
  | cons least rest hypothesis =>
      cases right with
      | nil => cases perm.symm.nil_eq
      | cons other others =>
          obtain ⟨leastFits, restAscending⟩ := List.pairwise_cons.1 leftAscending
          obtain ⟨otherFits, othersAscending⟩ := List.pairwise_cons.1 rightAscending
          obtain rfl := sortable.head_eq perm leastFits otherFits
            (stable least List.mem_cons_self)
          refine congrArg (least :: ·) (hypothesis (sortable.mono (List.subset_cons_self _ _))
            perm.cons_inv restAscending othersAscending fun item member => ?_)
          have same := stable item (List.mem_cons_of_mem least member)
          rw [List.filter_cons, List.filter_cons] at same
          split at same
          · exact (List.cons.inj same).2
          · exact same

/-- Items with keys in an order of their own, by which they are ordered. -/
theorem of_keys {κ : Type} [Ord κ] [Std.TransOrd κ] {IsKey : Value → κ → Prop}
    (agrees : ∀ {first second left right}, IsKey first left → IsKey second right →
      first.order? second = some (compare left right))
    (keyed : ∀ item ∈ items, ∃ key, IsKey item key) : Sortable items where
  ordered first isFirst second isSecond := by
    obtain ⟨left, isLeft⟩ := keyed first isFirst
    obtain ⟨right, isRight⟩ := keyed second isSecond
    rw [agrees isLeft isRight]
    rfl
  trans first isFirst middle isMiddle last isLast := by
    obtain ⟨left, isLeft⟩ := keyed first isFirst
    obtain ⟨center, isCenter⟩ := keyed middle isMiddle
    obtain ⟨right, isRight⟩ := keyed last isLast
    rw [NotGreater, NotGreater, NotGreater, agrees isLeft isCenter, agrees isCenter isRight,
      agrees isLeft isRight]
    simpa using Std.TransCmp.le_trans

theorem of_strings (strings : ∀ item ∈ items, ∃ text, item = .string text) : Sortable items :=
  of_keys (by rintro _ _ left right rfl rfl; rfl) strings

theorem of_integers (integers : ∀ item ∈ items, ∃ value, item.signed? = some value) :
    Sortable items := by
  refine of_keys (fun {first second left right} isLeft isRight => ?_) integers
  obtain ⟨number, rfl, leftSigned⟩ := Value.exists_number_of_signed? isLeft
  obtain ⟨other, rfl, rightSigned⟩ := Value.exists_number_of_signed? isRight
  rw [Value.order?, Number.order?_eq, leftSigned, rightSigned]

end Sortable

theorem IsSorting.unique {items first second : List Value} (sortable : Sortable items)
    (isFirst : IsSorting first items) (isSecond : IsSorting second items) : first = second := by
  have perm := isFirst.perm.trans isSecond.perm.symm
  refine (sortable.mono isFirst.perm.subset).eq_of_filter_eq perm isFirst.ascending
    isSecond.ascending fun item member => ?_
  have isItem := isFirst.perm.subset member
  exact (isFirst.stable item isItem).trans (isSecond.stable item isItem).symm

namespace Filter

variable {items : List Value} {item : Value}

theorem rank_swap (first second : Value) : rank second first = (rank first second).swap := by
  rw [rank, rank, Value.order?_swap first second]
  cases first.order? second <;> rfl

theorem isOrderOn_rank (sortable : Sortable items) : IsOrderOn rank items where
  swap first _ second _ := rank_swap first second
  trans first isFirst middle isMiddle last isLast := by
    simpa only [rank_ne_gt_iff] using sortable.trans first isFirst middle isMiddle last isLast

/-- Where items have an order, what is sorted by their ranks is sorted by this order. -/
theorem isSorting_of_isSortedBy (sortable : Sortable items) {sorted : List Value}
    (isSorted : IsSortedBy rank sorted items) : IsSorting sorted items where
  perm := isSorted.perm
  ascending := isSorted.ascending.imp rank_ne_gt_iff.1
  stable item isItem := by
    have same : ∀ other ∈ items, (rank other item == .eq) = item.ranksAs other := by
      intro other isOther
      obtain ⟨order, isOrder⟩ :=
        Option.isSome_iff_exists.1 (sortable.ordered other isOther item isItem)
      simp [rank, Value.ranksAs, isOrder]
    have equal := isSorted.stable item isItem
    rwa [List.filter_congr same,
      List.filter_congr fun other member => same other (isSorted.perm.subset member)] at equal

/-- Ascending items are sorted already. -/
theorem isSorting_self (ascending : items.Pairwise NotGreater) : IsSorting items items where
  perm := .rfl
  ascending
  stable _ _ := rfl

variable {long : Sorting Value}

/-- Sorting is only refused for long lists of items that are in no order. -/
theorem refused_of_sort_eq_error (lawful : long.Lawful) {argument : Option Value} {fault : Fault}
    (refused : sort long (.sequence items) argument = .error fault) :
    20 < items.length ∧ ¬ IsOrderOn rank items := by
  have failed := sort_eq_error_iff.1 refused
  exact ⟨(Sorting.shortByInsertion_eq_none_iff.1 failed.1).1,
    lawful.shortByInsertion.not_isOrderOn failed.1⟩

/-- Where items have an order, sorting puts them into it. -/
theorem exists_sort_of_sortable (lawful : long.Lawful) (sortable : Sortable items)
    (argument : Option Value) :
    ∃ sorted, sort long (.sequence items) argument = .ok (.sequence sorted) ∧
      IsSorting sorted items := by
  obtain ⟨sorted, found, isSorted⟩ := lawful.shortByInsertion.sorts (isOrderOn_rank sortable)
  exact ⟨sorted, sort_eq_ok_iff.2 ⟨sorted, found, rfl⟩, isSorting_of_isSortedBy sortable isSorted⟩

/--
What sorting does, in whatever way the platform sorts long lists that is lawful.
If there is a result it has the same items, whatever they are.  There is none
only for more than twenty items that are in no order.  Where the order of values
is one among the items the result is ascending, what compares equal stands as it
stood, there is no other list like that, and sorting it again does not change it.
All texts, and all integers in signed 64 bits, are in such an order.
-/
theorem sort_sortable (lawful : long.Lawful) (items : List Value) (argument : Option Value) :
    (∀ result, sort long (.sequence items) argument = .ok result →
      ∃ sorted, result = .sequence sorted ∧ sorted.Perm items) ∧
    (∀ fault, sort long (.sequence items) argument = .error fault →
      20 < items.length ∧ ¬ IsOrderOn rank items) ∧
    (Sortable items →
      ∃ sorted, sort long (.sequence items) argument = .ok (.sequence sorted) ∧
        IsSorting sorted items ∧ (∀ other, IsSorting other items → other = sorted) ∧
          ∀ again, sort long (.sequence sorted) again = .ok (.sequence sorted)) ∧
    ((∀ item ∈ items, ∃ text, item = .string text) → Sortable items) ∧
    ((∀ item ∈ items, ∃ value, item.signed? = some value) → Sortable items) := by
  refine ⟨fun result found => ?_, fun fault => refused_of_sort_eq_error lawful,
    fun sortable => ?_, Sortable.of_strings, Sortable.of_integers⟩
  · obtain ⟨sorted, isSorted, rfl⟩ := sort_eq_ok_iff.1 found
    exact ⟨sorted, rfl, lawful.shortByInsertion.perm isSorted⟩
  · obtain ⟨sorted, found, isSorting⟩ := exists_sort_of_sortable lawful sortable argument
    refine ⟨sorted, found, isSorting, fun other isOther => isOther.unique sortable isSorting,
      fun again => ?_⟩
    have remains := sortable.mono isSorting.perm.subset
    obtain ⟨next, sortedAgain, isNext⟩ := exists_sort_of_sortable lawful remains again
    rwa [isNext.unique remains (isSorting_self isSorting.ascending)] at sortedAgain

/-- Nought as a double and as an integer stay as they stand, and both end up in front of one. -/
theorem sort_sortable_nought :
    let long := Platform.reference.sortLong
    let nought := Value.number (.float (.zero true))
    let items := [Value.ofInt 1, nought, Value.ofInt 0]
    let sorted := [nought, Value.ofInt 0, Value.ofInt 1]
    long.Lawful ∧ sort long (.sequence items) none = .ok (.sequence sorted) ∧
      IsSorting sorted items ∧ sort long (.sequence sorted) none = .ok (.sequence sorted) := by
  intro long nought items sorted
  have lawful : long.Lawful := Sorting.lawful_checkedInsertion
  have before : rank nought (.ofInt 1) = .lt := by decide +kernel
  have stays : rank (.ofInt 0) nought = .eq := by decide +kernel
  have passes : rank (.ofInt 0) (.ofInt 1) = .lt := by decide +kernel
  have inserted : insertItems items = sorted := by
    simp [insertItems, Sorting.insertion, Sorting.insertReversed, items, sorted, before, stays,
      passes]
  have computed : sort long (.sequence items) none = .ok (.sequence sorted) :=
    inserted ▸ sort_of_length_le (by decide) long none
  obtain ⟨-, -, sortable, -⟩ := sort_sortable lawful items none
  obtain ⟨found, isFound, isSorting, -, again⟩ :=
    sortable ⟨by decide +kernel, by decide +kernel⟩
  obtain rfl : found = sorted := by simpa [computed] using isFound.symm
  exact ⟨lawful, computed, isSorting, again none⟩

/--
Twenty-one items that are in no order, as nil ranks with every number.  Insertion
leaves nil between numbers that are not in order, so the list has no result.
-/
theorem sort_unordered_nil :
    let items := [12, 11, 13, 14, 15, 16, 17, 18, 19, 20, 1].map Value.ofInt ++
      .nil :: [2, 3, 4, 5, 6, 7, 8, 9, 10].map Value.ofInt
    sort Platform.reference.sortLong (.sequence items) none = .error .unordered := by
  intro items
  rfl

end Filter

end Stencil
