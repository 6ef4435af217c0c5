import Stencil.Evaluation
import Stencil.Proofs.Value.Equivalence

/-!
# Containment and equality

In a template an object that displays a text is compared as this text.  A
sequence is searched for what stands for the value that is asked for, but its
items are taken as they are: an item that displays a text is found under no
name, not even under its own.
-/

namespace Stencil

namespace Value

/-- The text that a value displays: only objects do. -/
def display? : Value → Option String
  | .object host => host.display
  | _ => none

theorem comparable_of_display?_eq_none {value : Value} (plain : value.display? = none) :
    value.comparable = value := by
  cases value with
  | object host =>
      have absent : host.display = none := plain
      rw [comparable, absent]
  | _ => rfl

theorem comparable_of_display?_eq_some {value : Value} {text : String}
    (displayed : value.display? = some text) : value.comparable = .string text := by
  cases value with
  | object host =>
      have present : host.display = some text := displayed
      rw [comparable, present]
  | _ => cases displayed

/-- A handle stands for one object: if two values are the same object, both display the same. -/
def Coherent (first second : Value) : Prop :=
  ∀ host other, first = .object host → second = .object other →
    host.handle = other.handle → host.display = other.display

/-- An item that displays a text is not found, whatever is asked for. -/
theorem not_equals_comparable {item needle : Value} {text : String}
    (displayed : item.display? = some text) (coherent : item.Coherent needle) :
    ¬ item.equals needle.comparable := by
  intro found
  cases item with
  | object host =>
      cases asked : needle.display? with
      | some other =>
          rw [comparable_of_display?_eq_some asked] at found
          cases found
      | none =>
          rw [comparable_of_display?_eq_none asked] at found
          cases needle with
          | object other =>
              have same := coherent host other rfl rfl (eq_of_beq found)
              have none : host.display = none := same.trans asked
              rw [display?, none] at displayed
              cases displayed
          | _ => cases found
  | _ => cases displayed

theorem contains_sequence_iff {items : List Value} {needle : Value}
    (coherent : ∀ item ∈ items, item.Coherent needle) :
    contains (.sequence items) needle.comparable ↔
      ∃ item ∈ items, item.display? = none ∧ item.comparable.equals needle.comparable := by
  rw [contains, List.any_eq_true]
  constructor
  · rintro ⟨item, member, found⟩
    cases displayed : item.display? with
    | some text => exact absurd found (not_equals_comparable displayed (coherent item member))
    | none =>
        rw [← comparable_of_display?_eq_none displayed] at found
        exact ⟨item, member, displayed, found⟩
  · rintro ⟨item, member, plain, equal⟩
    rw [comparable_of_display?_eq_none plain] at equal
    exact ⟨item, member, equal⟩

/-- A text is contained as an item that is this text. -/
theorem contains_string_iff {items : List Value} {text : String} :
    contains (.sequence items) (.string text) ↔ .string text ∈ items := by
  rw [contains, List.any_eq_true]
  constructor
  · rintro ⟨item, member, found⟩
    cases item with
    | string other => exact eq_of_beq found ▸ member
    | _ => cases found
  · intro member
    exact ⟨.string text, member, equals_self _⟩

theorem contains_of_mem {items : List Value} {item : Value} (member : item ∈ items) :
    contains (.sequence items) item := by
  rw [contains, List.any_eq_true]
  exact ⟨item, member, equals_self item⟩

end Value

namespace Expr

theorem isTruthy_eval_comparison (scope : Scope) (operator : CompareOperator) (left right : Expr) :
    ((comparison operator left right).eval scope).isTruthy =
      operator.holds (left.eval scope).comparable (right.eval scope).comparable :=
  rfl

/--
A sequence contains a value in a template just when the value equals an item
that displays no text.  So this is the same as to equal some item only where
the items that display a text are not the only equal ones.  An item that
displays a text is contained just when its text is an item, too.
-/
theorem isTruthy_contains_iff {scope : Scope} {list needle : Expr} {items : List Value}
    {element : Value → Expr} (isList : list.eval scope = .sequence items)
    (isElement : ∀ item ∈ items, (element item).eval scope = item)
    (coherent : ∀ item ∈ items, item.Coherent (needle.eval scope)) :
    let contained := ((comparison .contains list needle).eval scope).isTruthy
    let equal := fun item => ((comparison .equal (element item) needle).eval scope).isTruthy
    (contained ↔ ∃ item ∈ items, item.display? = none ∧ equal item) ∧
      ((contained ↔ ∃ item ∈ items, equal item) ↔
        ((∃ item ∈ items, equal item) → ∃ item ∈ items, item.display? = none ∧ equal item)) ∧
      ∀ item ∈ items, needle.eval scope = item →
        (contained ↔ ∀ text, item.display? = some text → .string text ∈ items) := by
  intro contained equal
  have isContained : contained =
      (Value.sequence items).contains (needle.eval scope).comparable := by
    simp only [contained, isTruthy_eval_comparison, isList]
    rfl
  have found : contained ↔ ∃ item ∈ items, item.display? = none ∧ equal item := by
    rw [isContained, Value.contains_sequence_iff coherent]
    refine exists_congr fun item => and_congr_right fun member => ?_
    simp only [equal, isTruthy_eval_comparison, isElement item member]
    rfl
  refine ⟨found, ?_, ?_⟩
  · constructor
    · intro agrees equals
      exact found.1 (agrees.2 equals)
    · intro plain
      refine ⟨fun holds => ?_, fun equals => found.2 (plain equals)⟩
      obtain ⟨item, member, -, equals⟩ := found.1 holds
      exact ⟨item, member, equals⟩
  · rintro item member isItem
    rw [isContained, isItem]
    cases displayed : item.display? with
    | none =>
        rw [Value.comparable_of_display?_eq_none displayed]
        exact iff_of_true (Value.contains_of_mem member) (by simp)
    | some text =>
        rw [Value.comparable_of_display?_eq_some displayed, Value.contains_string_iff]
        simp

/-- A list of an object that displays a text, with and without this text as another item. -/
theorem isTruthy_contains_iff_duncan :
    let host : HostObject Value := ⟨0, fun _ => none, fun _ => none, some "Duncan", "Host"⟩
    let items : List Value := [.object host, .string "Duncan"]
    let data : Context := ⟨[("ghola", .object host), ("gholas", .sequence items)]⟩
    let scope := Scope.start data (Moment.ofDate ⟨0⟩)
    (∀ item ∈ items, item.Coherent (.object host)) ∧
      ((comparison .contains (.path ["gholas"]) (.path ["ghola"])).eval scope).isTruthy := by
  intro host items data scope
  have coherent : ∀ item ∈ items, item.Coherent (.object host) := by
    intro item member first second isFirst isSecond same
    cases isSecond
    rcases List.mem_cons.1 member with rfl | later
    · cases isFirst
      rfl
    · cases List.mem_singleton.1 later
      cases isFirst
  obtain ⟨-, -, own⟩ := @isTruthy_contains_iff scope (.path ["gholas"]) (.path ["ghola"]) items
    .literal rfl (fun _ _ => rfl) coherent
  refine ⟨coherent, (own (.object host) List.mem_cons_self rfl).2 fun text displayed => ?_⟩
  cases displayed
  exact List.mem_cons_of_mem _ List.mem_cons_self

/-- A list does not contain its own element, although they are equal. -/
theorem not_isTruthy_contains :
    let host : HostObject Value := ⟨0, fun _ => none, fun _ => none, some "Duncan", "Host"⟩
    let data : Context := ⟨[("ghola", .object host), ("gholas", .sequence [.object host])]⟩
    let scope := Scope.start data (Moment.ofDate ⟨0⟩)
    ((comparison .equal (.path ["gholas", "first"]) (.path ["ghola"])).eval scope).isTruthy ∧
      ¬ ((comparison .contains (.path ["gholas"]) (.path ["ghola"])).eval scope).isTruthy := by
  decide +kernel

end Expr

end Stencil
