import Mathlib.Data.List.Chain
import Stencil.Filter.Sequence
import Stencil.Platform
import Stencil.Proofs.Sorting
import Stencil.Proofs.Value.Order

/-!
# Sorting values by insertion

Up to twenty values are sorted by insertion.  An item only ever passes items that
are greater, and it is stopped by the first one that is not.  So items that are
tied stay in their order, and one between two others that is tied with both, as
one without an order is, keeps them apart even where they are not in order.
-/

namespace Stencil

namespace Value

variable {first second : Value}

/-- A value may stand in front of another one: it is not greater. -/
def NotGreater (first second : Value) : Prop :=
  first.order? second ≠ some .gt

/-- Neither of two values is less than the other one; they may have no order at all. -/
def Tied (first second : Value) : Prop :=
  first.order? second ≠ some .lt ∧ first.order? second ≠ some .gt

theorem notGreater_iff : first.NotGreater second ↔ second.order? first ≠ some .lt :=
  not_congr order?_eq_gt_iff

theorem notGreater_of_less (less : first.order? second = some .lt) : first.NotGreater second := by
  rw [NotGreater, less]
  decide

/-- A value that stops an item on its way to a greater one is tied with both of them. -/
theorem tied_of_stops {item : Value} (less : item.order? first = some .lt)
    (stops : item.order? second ≠ some .lt) (notGreater : first.NotGreater second) :
    first.Tied second ∧ second.Tied item := by
  refine ⟨⟨fun below => ?_, notGreater⟩, fun below => ?_, fun above => ?_⟩
  · exact stops (order?_trans less below)
  · exact notGreater (order?_eq_gt_iff.2 (order?_trans below less))
  · exact stops (order?_eq_gt_iff.1 above)

end Value

namespace Filter

open Value (NotGreater Tied)

variable {items : List Value}

theorem rank_eq_lt_iff {first second : Value} :
    rank first second = .lt ↔ first.order? second = some .lt := by
  unfold rank
  rcases first.order? second with _ | _ | _ | _ <;> simp

theorem rank_ne_gt_iff {first second : Value} :
    rank first second ≠ .gt ↔ first.NotGreater second := by
  unfold rank NotGreater
  rcases first.order? second with _ | _ | _ | _ <;> simp

/-- The items sorted by insertion. -/
def insertItems (items : List Value) : List Value :=
  Sorting.insertion rank items

theorem exists_insertItems_concat (items : List Value) (item : Value) :
    ∃ before behind, insertItems items = before ++ behind ∧
      insertItems (items ++ [item]) = before ++ item :: behind ∧
      (∀ other ∈ behind, item.order? other = some .lt) ∧
      ∀ other ∈ before.getLast?, item.order? other ≠ some .lt := by
  simpa only [insertItems, rank_eq_lt_iff, ne_eq] using
    Sorting.exists_insertion_concat rank items item

theorem perm_insertItems (items : List Value) : (insertItems items).Perm items :=
  Sorting.perm_insertion rank items

theorem sort_eq_ok_iff {long : Sorting Value} {argument : Option Value} {result : Value} :
    sort long (.sequence items) argument = .ok result ↔
      ∃ sorted, long.shortByInsertion rank items = some sorted ∧ .sequence sorted = result := by
  rw [sort]
  cases long.shortByInsertion rank items <;> simp

theorem sort_eq_error_iff {long : Sorting Value} {argument : Option Value} {fault : Fault} :
    sort long (.sequence items) argument = .error fault ↔
      long.shortByInsertion rank items = none ∧ .unordered = fault := by
  rw [sort]
  cases long.shortByInsertion rank items <;> simp

/-- A list that is not too long is sorted by insertion, whatever the other way to sort is. -/
theorem sort_of_length_le (short : items.length ≤ 20) (long : Sorting Value)
    (argument : Option Value) :
    sort long (.sequence items) argument = .ok (.sequence (insertItems items)) := by
  have inserted : long.shortByInsertion rank items = some (insertItems items) := if_pos short
  rw [sort, inserted]

/-- A part of a list with one more item takes this item last or not at all. -/
theorem sublist_concat {part : List Value} {item : Value}
    (isPart : part.Sublist (items ++ [item])) :
    part.Sublist items ∨ ∃ others, part = others ++ [item] ∧ others.Sublist items := by
  obtain ⟨others, last, rfl, isOthers, isLast⟩ := List.sublist_append_iff.1 isPart
  rcases List.sublist_singleton.1 isLast with rfl | rfl
  · exact .inl (by simpa using isOthers)
  · exact .inr ⟨others, rfl, isOthers⟩

/-- Items each of which is tied with the next one stay in their order. -/
theorem sublist_insertItems {part : List Value} (tied : part.IsChain Tied)
    (isPart : part.Sublist items) : part.Sublist (insertItems items) := by
  induction items using List.reverseRecOn generalizing part with
  | nil => exact isPart
  | append_singleton items item hypothesis =>
      obtain ⟨before, behind, sorted, extended, less, -⟩ := exists_insertItems_concat items item
      rw [extended]
      rcases sublist_concat isPart with others | ⟨others, rfl, isOthers⟩
      · refine (hypothesis tied others).trans ?_
        rw [sorted]
        exact (List.sublist_cons_self item behind).append_left before
      · obtain ⟨chain, -, joint⟩ := List.isChain_append.1 tied
        obtain ⟨front, back, rfl, isFront, isBack⟩ :=
          List.sublist_append_iff.1 (sorted ▸ hypothesis chain isOthers)
        -- The last of the others is tied with the item, so it is not among those it passes.
        obtain rfl | ⟨back, last, rfl⟩ := List.eq_nil_or_concat' back
        · simpa using isFront.append ((List.nil_sublist behind).cons_cons item)
        · have passed := less last (isBack.subset (by simp))
          have tied := joint last (by simp) item (by simp)
          exact absurd (Value.order?_eq_gt_iff.2 passed) tied.2

/-- Of two items the one in front is less, or it has been in front before. -/
theorem pairwise_insertItems (items : List Value) :
    (insertItems items).Pairwise fun first second =>
      first.order? second = some .lt ∨ [first, second].Sublist items := by
  induction items using List.reverseRecOn with
  | nil => exact .nil
  | append_singleton items item hypothesis =>
      obtain ⟨before, behind, sorted, extended, less, -⟩ := exists_insertItems_concat items item
      have members : ∀ other, other ∈ before ++ behind ↔ other ∈ items := fun other =>
        sorted ▸ (perm_insertItems items).mem_iff
      have others := hypothesis.imp fun {first second} =>
        Or.imp_right (·.trans (List.sublist_append_left items [item]))
      rw [sorted] at others
      rw [extended, List.pairwise_append, List.pairwise_cons]
      obtain ⟨ofBefore, ofBehind, across⟩ := List.pairwise_append.1 others
      refine ⟨ofBefore, ⟨fun other member => .inl (less other member), ofBehind⟩,
        fun first member => List.forall_mem_cons.2 ⟨.inr ?_, across first member⟩⟩
      have among : first ∈ items := (members first).1 (List.mem_append_left behind member)
      exact (List.singleton_sublist.2 among).append_right [item]

/-- No item that is tied with both keeps apart two items that are not in order. -/
def Unblocked (items : List Value) : Prop :=
  ∀ first between last, [first, between, last].Sublist items → first.Tied between →
    between.Tied last → first.NotGreater last

/-- An item that stops in front of those it passes is not less than any of those it does not. -/
theorem notGreater_of_stops {item : Value} {before behind : List Value}
    (unblocked : Unblocked (items ++ [item])) (sorted : insertItems items = before ++ behind)
    (ascending : before.Pairwise NotGreater)
    (stops : ∀ other ∈ before.getLast?, item.order? other ≠ some .lt) :
    ∀ other ∈ before, other.NotGreater item := by
  intro other member
  rw [Value.notGreater_iff]
  intro less
  obtain rfl | ⟨front, last, rfl⟩ := List.eq_nil_or_concat' before
  · cases member
  have stopped : item.order? last ≠ some .lt := stops last (by simp)
  rcases List.mem_append.1 member with inFront | isLast
  -- What stops the item is tied with both, and as it has not passed the other, it was behind it.
  · have notGreater := (List.pairwise_append.1 ascending).2.2 other inFront last (by simp)
    obtain ⟨tied, tiedItem⟩ := Value.tied_of_stops less stopped notGreater
    have placed := pairwise_insertItems items
    rw [sorted] at placed
    have inOrder := (List.pairwise_append.1 (List.pairwise_append.1 placed).1).2.2
    have isPart := (inOrder other inFront last (by simp)).resolve_left tied.1
    have kept := unblocked other last item (isPart.append_right [item]) tied tiedItem
    exact Value.notGreater_iff.1 kept less
  · rw [List.mem_singleton.1 isLast] at less
    exact stopped less

/-- The items end up in order just when no tied item keeps apart two that are not in order. -/
theorem pairwise_insertItems_iff : (insertItems items).Pairwise NotGreater ↔ Unblocked items := by
  constructor
  · intro ascending first between last isPart before behind
    have tied : [first, between, last].IsChain Tied :=
      .cons_cons before (.cons_cons behind (.singleton last))
    have stays := sublist_insertItems tied isPart
    have apart : [first, last].Sublist [first, between, last] := by simp
    exact List.pairwise_iff_forall_sublist.1 ascending (apart.trans stays)
  · intro unblocked
    -- From the end of the list, as this is how it is sorted: the last item is the last to go in.
    induction items using List.reverseRecOn with
    | nil => exact .nil
    | append_singleton items item hypothesis =>
        obtain ⟨before, behind, sorted, extended, less, stops⟩ :=
          exists_insertItems_concat items item
        have ascending := hypothesis fun first between last isPart =>
          unblocked first between last (isPart.trans (List.sublist_append_left items [item]))
        rw [sorted] at ascending
        obtain ⟨ofBefore, ofBehind, across⟩ := List.pairwise_append.1 ascending
        have notGreater := notGreater_of_stops unblocked sorted ofBefore stops
        rw [extended, List.pairwise_append, List.pairwise_cons]
        exact ⟨ofBefore, ⟨fun other member => Value.notGreater_of_less (less other member),
          ofBehind⟩, fun first member =>
            List.forall_mem_cons.2 ⟨notGreater first member, across first member⟩⟩

/--
Sorting values of any kinds.  Up to twenty of them are sorted by insertion: items
each of which is tied with the next one stay in their order, and of two items the
one in front is less or has been in front before.  No number ends up in front of a
smaller one and no text in front of a smaller one just when none of the items
keeps apart two that are not in order: an item that is tied with both of them and
stands between them, as one of another kind is.  Of more than twenty items, sorted
in whatever way is lawful, this is only known where they are in an order in which
those without one rank as equal.
-/
theorem sort_mixed {long : Sorting Value} (lawful : long.Lawful) (items : List Value)
    (argument : Option Value) :
    (items.length ≤ 20 → ∃ sorted, sort long (.sequence items) argument = .ok (.sequence sorted) ∧
      (∀ part : List Value, part.IsChain Tied → part.Sublist items → part.Sublist sorted) ∧
      (sorted.Pairwise fun first second =>
        first.order? second = some .lt ∨ [first, second].Sublist items) ∧
      (sorted.Pairwise NotGreater ↔
        ∀ first between last, [first, between, last].Sublist items → first.Tied between →
          between.Tied last → first.NotGreater last)) ∧
    (IsOrderOn rank items →
      ∃ sorted, sort long (.sequence items) argument = .ok (.sequence sorted) ∧
        sorted.Pairwise NotGreater) := by
  refine ⟨fun short => ⟨insertItems items, sort_of_length_le short long argument,
    fun _ => sublist_insertItems, pairwise_insertItems items, pairwise_insertItems_iff⟩,
    fun order => ?_⟩
  obtain ⟨sorted, found, isSorted⟩ := lawful.shortByInsertion.sorts order
  exact ⟨sorted, sort_eq_ok_iff.2 ⟨sorted, found, rfl⟩, isSorted.ascending.imp rank_ne_gt_iff.1⟩

/-- One passes three and is stopped by nil, so two is left in front of it. -/
theorem sort_mixed_four :
    let long := Platform.reference.sortLong
    let items := [Value.ofInt 2, .nil, Value.ofInt 3, Value.ofInt 1]
    let sorted := [Value.ofInt 2, .nil, Value.ofInt 1, Value.ofInt 3]
    long.Lawful ∧ sort long (.sequence items) none = .ok (.sequence sorted) ∧
      [Value.ofInt 2, .nil, Value.ofInt 1].Sublist sorted ∧ ¬ sorted.Pairwise NotGreater := by
  intro long items sorted
  have lawful : long.Lawful := Sorting.lawful_checkedInsertion
  have tied : Value.Tied (.ofInt 2) .nil ∧ Value.Tied .nil (.ofInt 1) := by
    simp [Tied, Value.order?, Value.ofInt]
  have isPart : [Value.ofInt 2, .nil, Value.ofInt 1].Sublist items := by simp [items]
  have greater : ¬ (Value.ofInt 2).NotGreater (.ofInt 1) := by
    simp [NotGreater, show (Value.ofInt 2).order? (.ofInt 1) = some .gt by decide]
  obtain ⟨found, isFound, stays, -, ascending⟩ := (sort_mixed lawful items none).1 (by decide)
  have computed : sort long (.sequence items) none = .ok (.sequence sorted) := rfl
  obtain rfl : found = sorted := by simpa [computed] using isFound.symm
  refine ⟨lawful, computed, stays _ (by simp [tied]) isPart, fun inOrder => ?_⟩
  exact greater (ascending.1 inOrder _ _ _ isPart tied.1 tied.2)

/-- Two stays in front of one, as nil between them is tied with both. -/
theorem sort_two_nil_one :
    let items := [Value.ofInt 2, .nil, Value.ofInt 1]
    sort Platform.reference.sortLong (.sequence items) none = .ok (.sequence items) ∧
      ¬ items.Pairwise NotGreater := by
  intro items
  have stays : sort Platform.reference.sortLong (.sequence items) none =
      .ok (.sequence items) :=
    rfl
  have greater : (Value.ofInt 2).order? (Value.ofInt 1) = some .gt := by decide
  refine ⟨stays, fun ascending => ?_⟩
  exact (List.pairwise_cons.1 ascending).1 (Value.ofInt 1) (by simp) greater

end Filter

end Stencil
