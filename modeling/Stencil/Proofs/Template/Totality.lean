import Mathlib
import Stencil.Proofs.Filter.Totality
import Stencil.Proofs.Node.Compilation
import Stencil.Proofs.Node.Event

/-!
# Templates with an output

With the built-in filters, rendering ends with an output whatever the data is,
except where a date is to be written by a pattern that asks for a zone which
the date does not have, and where the platform refuses to sort a long list of
items that are in no order.
-/

namespace Stencil

namespace Template

/-- With the built-in filters, only a date that is asked for too much and a list that is not sorted
stop a rendering. -/
theorem isOk_render_iff_of_standard {platform : Platform} (writes : platform.calendar.Lawful)
    {template : Template} (standard : template.config = Registry.empty.standard platform)
    (data : Context) (now : Moment) :
    (template.render data now).isOk ↔
      (∀ value argument, .filter "date" value argument ∈ template.events data now →
        ¬ Filter.Overasked platform.calendar now value argument) ∧
      ∀ value argument, .filter "sort" value argument ∈ template.events data now →
        ¬ Filter.Refused platform.sortLong value := by
  rw [isOk_render_iff, standard]
  constructor
  · intro passes
    constructor
    · intro value argument member
      exact (Filter.isOk_date_iff writes).1 (passes _ member _ Registry.filter?_date)
    · intro value argument member
      exact Filter.isOk_sort_iff.1 (passes _ member _ Registry.filter?_sort)
  · rintro ⟨dates, lists⟩ event member
    cases event with
    | tag name => trivial
    | filter name value argument =>
        intro filter registered
        rw [Registry.isOk_filter_iff writes registered]
        constructor
        · rintro ⟨rfl, overasked⟩
          exact dates value argument member overasked
        · rintro ⟨rfl, refused⟩
          exact lists value argument member refused

/--
Built-in filters have results and templates with them have outputs, on every
platform that sorts and writes dates lawfully, each unless the `date` filter is
given a date to write by a pattern that asks for too much or the `sort` filter a
list that the platform refuses.  It refuses only lists of more than twenty items
that are in no order.
-/
theorem exists_render_iff {platform : Platform} (sorts : platform.sortLong.Lawful)
    (writes : platform.calendar.Lawful) {source : String} {template : Template}
    (compiled : compile (Registry.empty.standard platform) source = .ok template)
    (data : Context) (now : Moment) :
    (∀ name filter, template.config.filter? name = some filter → ∀ value argument,
      (∃ result, filter now value argument = .ok result) ↔
        ¬ (name = "date" ∧ Filter.Overasked platform.calendar now value argument) ∧
          ¬ (name = "sort" ∧ Filter.Refused platform.sortLong value)) ∧
    ((∃ output, template.render data now = .ok output) ↔
      (∀ value argument, .filter "date" value argument ∈ template.events data now →
        ¬ Filter.Overasked platform.calendar now value argument) ∧
      ∀ value argument, .filter "sort" value argument ∈ template.events data now →
        ¬ Filter.Refused platform.sortLong value) ∧
    ∀ items, Filter.Refused platform.sortLong (.sequence items) →
      20 < items.length ∧ ¬ IsOrderOn Filter.rank items := by
  have standard : template.config = Registry.empty.standard platform :=
    (compile_eq_ok_iff.1 compiled).2
  simp only [← Except.isOk_iff_exists]
  refine ⟨fun name filter registered value argument => ?_,
    isOk_render_iff_of_standard writes standard data now,
    fun items refused => refused.not_isOrderOn sorts⟩
  rw [standard] at registered
  exact Registry.isOk_filter_iff writes registered now value argument

/-- A date without a zone in the data, written by a pattern that asks for its year. -/
theorem exists_render_iff_year :
    let template : Template :=
      { nodes := [.output ⟨.path ["d"], [⟨"date", some (.literal (.string "%Y"))⟩]⟩]
        config := Registry.empty.standard .reference }
    let data : Context := ⟨[("d", .string "2017-03-05")]⟩
    let now := Moment.ofDate ⟨0⟩
    Platform.reference.sortLong.Lawful ∧ Platform.reference.calendar.Lawful ∧
      compile (Registry.empty.standard .reference) "\x7b\x7b d | date: '%Y' \x7d\x7d" =
        .ok template ∧
      ∃ output, template.render data now = .ok output := by
  intro template data now
  have sorts : Platform.reference.sortLong.Lawful := Sorting.lawful_checkedInsertion
  have writes : Platform.reference.calendar.Lawful := Calendar.lawful_gregorian
  have compiled : compile (Registry.empty.standard .reference)
      "\x7b\x7b d | date: '%Y' \x7d\x7d" = .ok template := by
    cbv
  have only : template.events data now =
      [.filter "date" (.string "2017-03-05") (some (.string "%Y"))] := by
    cbv
  refine ⟨sorts, writes, compiled,
    (exists_render_iff sorts writes compiled data now).2.1.2 ⟨fun value argument member => ?_,
      fun value argument member => ?_⟩⟩
  · rw [only, List.mem_singleton] at member
    cases member
    exact (Filter.isOk_date_iff writes).1 (by decide +kernel)
  · simp [only] at member

/-- The same date has no output by a pattern that asks for its zone. -/
theorem render_eq_zoneUnknown :
    let template : Template :=
      { nodes := [.output ⟨.path ["d"], [⟨"date", some (.literal (.string "%z"))⟩]⟩]
        config := Registry.empty.standard .reference }
    let data : Context := ⟨[("d", .string "2017-03-05")]⟩
    let now := Moment.ofDate ⟨0⟩
    compile (Registry.empty.standard .reference) "\x7b\x7b d | date: '%z' \x7d\x7d" =
        .ok template ∧
      template.render data now = .error .zoneUnknown := by
  intro template data now
  exact ⟨by cbv, by cbv⟩

end Template

end Stencil
