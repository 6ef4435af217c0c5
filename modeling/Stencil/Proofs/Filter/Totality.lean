import Stencil.Filter.Standard
import Stencil.Proofs.Checked
import Stencil.Proofs.Filter.Sorting

/-!
# Filters without a result

Every built-in filter has a result for every value and every argument, apart
from two cases: a date is to be written by a pattern that asks for a zone, and
has none, or the platform refuses to sort a long list of items that are in no
order.
-/

namespace Stencil

namespace Pattern

/-- Whether a part of a pattern asks for the zone of a moment. -/
def Item.asksZone : Item → Bool
  | .text .zoneName | .text (.zoneOffset _ _) | .text .standard => true
  | _ => false

/-- A part cannot be written: it can only be read, or asks for a zone that is not known. -/
def Item.Unwritable (moment : Moment) (item : Item) : Prop :=
  item = .text .anyZone ∨ moment.zone = none ∧ item.asksZone

theorem writeItem?_eq_none_iff {moment : Moment} {item : Item} :
    writeItem? moment item = none ↔ item.Unwritable moment := by
  cases item with
  | literal char => simp [writeItem?, Item.Unwritable, Item.asksZone]
  | number field padding => simp [writeItem?, Item.Unwritable, Item.asksZone]
  | text field => cases field <;> simp [writeItem?, writeText?, Item.Unwritable, Item.asksZone]

theorem write?_eq_none_iff {moment : Moment} {items : List Item} :
    write? moment items = none ↔ ∃ item ∈ items, item.Unwritable moment := by
  induction items with
  | nil => simp [write?]
  | cons item items ih =>
      simp only [List.mem_cons, exists_eq_or_imp]
      rw [← ih, ← writeItem?_eq_none_iff, write?]
      cases writeItem? moment item <;> cases write? moment items <;> simp

end Pattern

/-- What a calendar promises: it can write everything but what a moment does not have. -/
structure Calendar.Lawful (calendar : Calendar) : Prop where
  write?_eq_none_iff : ∀ {moment items}, calendar.write? moment items = none ↔
    ∃ item ∈ items, Pattern.Item.Unwritable moment item

theorem Calendar.lawful_gregorian : gregorian.Lawful where
  write?_eq_none_iff := Pattern.write?_eq_none_iff

namespace Filter

/-- A value denotes a date, and the argument a pattern by which it cannot be written. -/
def Overasked (calendar : Calendar) (now : Moment) (value : Value) (argument : Option Value) :
    Prop :=
  ∃ pattern moment, calendar.readPattern? (patternOf argument) = some pattern ∧
    momentOf? calendar now value = some moment ∧ ∃ item ∈ pattern, item.Unwritable moment

theorem isOk_date_iff {calendar : Calendar} (lawful : calendar.Lawful) {now : Moment}
    {value : Value} {argument : Option Value} :
    (date calendar now value argument).isOk ↔ ¬ Overasked calendar now value argument := by
  unfold date Overasked
  cases calendar.readPattern? (patternOf argument) with
  | none => simp
  | some pattern =>
      cases momentOf? calendar now value with
      | none => simp
      | some moment =>
          have written := @lawful.write?_eq_none_iff moment pattern
          cases result : calendar.write? moment pattern with
          | none => simp [← written, result]
          | some text => simp [← written, result]

/-- A value is a list that is too long for insertion, and the platform does not sort it. -/
def Refused (long : Sorting Value) (value : Value) : Prop :=
  ∃ items, value = .sequence items ∧ 20 < items.length ∧ long rank items = none

/-- A list is only refused if its items are in no order. -/
theorem Refused.not_isOrderOn {long : Sorting Value} (lawful : long.Lawful) {items : List Value}
    (refused : Refused long (.sequence items)) : 20 < items.length ∧ ¬ IsOrderOn rank items := by
  obtain ⟨_, ⟨⟩, tooLong, failed⟩ := refused
  exact ⟨tooLong, lawful.not_isOrderOn failed⟩

theorem isOk_sort_iff {long : Sorting Value} {value : Value} {argument : Option Value} :
    (sort long value argument).isOk ↔ ¬ Refused long value := by
  unfold Refused
  cases value with
  | sequence items =>
      have failed := @Sorting.shortByInsertion_eq_none_iff _ rank items long
      rw [sort]
      cases result : long.shortByInsertion rank items <;>
        simpa [result, Sorting.insertionLimit] using failed
  | _ => simp [sort]

/-- All built-in filters but two are functions of the value and the argument. -/
theorem cases_of_mem_builtin {platform : Platform} {name : String} {filter : Filter}
    (member : (name, filter) ∈ builtin platform) :
    (name ≠ "sort" ∧ name ≠ "date" ∧ ∃ function, filter = ofFunction function) ∨
      (name = "sort" ∧ filter = fun _ => sort platform.sortLong) ∨
      (name = "date" ∧ filter = date platform.calendar) := by
  simp only [builtin, List.mem_cons, List.not_mem_nil, or_false, Prod.mk.injEq] at member
  repeat
    rcases member with ⟨rfl, rfl⟩ | member
    · first
        | exact .inr (.inl ⟨rfl, rfl⟩)
        | exact .inl ⟨by decide, by decide, _, rfl⟩
  -- The date filter is the last of the table.
  exact .inr (.inr member)

end Filter

namespace Entries

variable {α : Type}

/-- What a merged map has comes from one of the two. -/
theorem mem_of_get?_merge {target source : Entries α} {name : String} {value : α}
    (found : get? (merge target source) name = some value) :
    get? target name = some value ∨ (name, value) ∈ source := by
  induction source generalizing target with
  | nil => exact .inl found
  | cons entry source ih =>
      rcases ih found with earlier | later
      · rw [get?_insert] at earlier
        split at earlier
        · next same =>
            cases earlier
            exact .inr (same ▸ List.mem_cons_self)
        · exact .inl earlier
      · exact .inr (List.mem_cons_of_mem _ later)

end Entries

namespace Registry

variable {platform : Platform}

/-- The filters of the standard configuration are the built-in ones. -/
theorem mem_builtin_of_filter? {name : String} {filter : Filter}
    (registered : (empty.standard platform).filter? name = some filter) :
    (name, filter) ∈ Filter.builtin platform := by
  simp only [Config.filter?, standard] at registered
  rcases Entries.mem_of_get?_merge registered with found | impossible
  · rw [Entries.ofList] at found
    exact (Entries.mem_of_get?_merge found).resolve_left (by simp)
  · cases impossible

theorem filter?_date :
    (empty.standard platform).filter? "date" = some (Filter.date platform.calendar) := by
  simp [Config.filter?, standard, empty, Entries.ofList, Entries.merge, Filter.builtin,
    Entries.get?_insert]

theorem filter?_sort :
    (empty.standard platform).filter? "sort" = some fun _ => Filter.sort platform.sortLong := by
  simp [Config.filter?, standard, empty, Entries.ofList, Entries.merge, Filter.builtin,
    Entries.get?_insert]

/-- A built-in filter has a result, whatever value and argument it is given, except for a date
that is to be written by a pattern which asks for too much, and for a list that is not sorted. -/
theorem isOk_filter_iff (lawful : platform.calendar.Lawful) {name : String} {filter : Filter}
    (registered : (empty.standard platform).filter? name = some filter) (now : Moment)
    (value : Value) (argument : Option Value) :
    (filter now value argument).isOk ↔
      ¬ (name = "date" ∧ Filter.Overasked platform.calendar now value argument) ∧
        ¬ (name = "sort" ∧ Filter.Refused platform.sortLong value) := by
  rcases Filter.cases_of_mem_builtin (mem_builtin_of_filter? registered) with
    ⟨notSort, notDate, function, rfl⟩ | ⟨rfl, rfl⟩ | ⟨rfl, rfl⟩
  · simp [Filter.ofFunction, notSort, notDate]
  · simp [Filter.isOk_sort_iff]
  · simp [Filter.isOk_date_iff lawful]

end Registry

end Stencil
