import Stencil.Filter.Sequence
import Stencil.Proofs.Number.Equality
import Stencil.Rendering

/-!
# Equality as an equivalence

Equality of values is reflexive and symmetric.  It is transitive through a
value just if this holds no double to which several integers are equal.  That
such a double is always in the way is seen by putting the integers in its
place.
-/

namespace Stencil

namespace Value

/-! ## The numbers of a value -/

mutual

/-- The numbers in a value, at any depth. -/
def numbers : Value → List Number
  | .number value => [value]
  | .sequence items => numbersOfItems items
  | .mapping entries => numbersOfEntries entries
  | _ => []

def numbersOfItems : List Value → List Number
  | [] => []
  | item :: items => numbers item ++ numbersOfItems items

def numbersOfEntries : List (String × Value) → List Number
  | [] => []
  | (_, value) :: entries => numbers value ++ numbersOfEntries entries

end

mutual

/-- A value with another number in place of one, wherever it holds it. -/
def substitute (old new : Number) : Value → Value
  | .number value => .number (if value = old then new else value)
  | .sequence items => .sequence (substituteItems old new items)
  | .mapping entries => .mapping (substituteEntries old new entries)
  | value => value

def substituteItems (old new : Number) : List Value → List Value
  | [] => []
  | item :: items => substitute old new item :: substituteItems old new items

def substituteEntries (old new : Number) : List (String × Value) → List (String × Value)
  | [] => []
  | (name, value) :: entries => (name, substitute old new value) :: substituteEntries old new entries

end

mutual

theorem substitute_self (number : Number) :
    ∀ value : Value, value.substitute number number = value
  | .nil | .bool _ | .string _ | .object _ => rfl
  | .number value => by
      rw [substitute]
      split
      · next same => rw [same]
      · rfl
  | .sequence items => by rw [substitute, substituteItems_self number items]
  | .mapping entries => by rw [substitute, substituteEntries_self number entries]

theorem substituteItems_self (number : Number) :
    ∀ items : List Value, substituteItems number number items = items
  | [] => rfl
  | item :: items => by
      rw [substituteItems, substitute_self number item, substituteItems_self number items]

theorem substituteEntries_self (number : Number) :
    ∀ entries : List (String × Value), substituteEntries number number entries = entries
  | [] => rfl
  | (name, value) :: entries => by
      rw [substituteEntries, substitute_self number value, substituteEntries_self number entries]

end

mutual

/-- Two values that differ in one number are equal just when its two replacements are. -/
theorem equals_substitute_iff (old first second : Number) : ∀ value : Value,
    (value.substitute old first).equals (value.substitute old second) ↔
      (old ∈ value.numbers → first.equals second)
  | .nil => by simp [substitute, equals, numbers]
  | .bool _ => by simp [substitute, equals, numbers]
  | .string _ => by simp [substitute, equals, numbers]
  | .object _ => by simp [substitute, equals, numbers]
  | .number value => by
      rw [substitute, substitute, equals, numbers, List.mem_singleton]
      by_cases same : value = old
      · simp [same]
      · simp [same, Ne.symm same, Number.equals_self]
  | .sequence items => by
      rw [substitute, substitute, equals, numbers]
      exact equalItems_substitute_iff old first second items
  | .mapping entries => by
      rw [substitute, substitute, equals, numbers]
      exact equalEntries_substitute_iff old first second entries

theorem equalItems_substitute_iff (old first second : Number) : ∀ items : List Value,
    equalItems (substituteItems old first items) (substituteItems old second items) ↔
      (old ∈ numbersOfItems items → first.equals second)
  | [] => by simp [substituteItems, equalItems, numbersOfItems]
  | item :: items => by
      rw [substituteItems, substituteItems, equalItems, numbersOfItems, List.mem_append,
        Bool.and_eq_true, equals_substitute_iff old first second item,
        equalItems_substitute_iff old first second items, or_imp]

theorem equalEntries_substitute_iff (old first second : Number) :
    ∀ entries : List (String × Value),
      equalEntries (substituteEntries old first entries) (substituteEntries old second entries) ↔
        (old ∈ numbersOfEntries entries → first.equals second)
  | [] => by simp [substituteEntries, equalEntries, numbersOfEntries]
  | (name, value) :: entries => by
      rw [substituteEntries, substituteEntries, equalEntries, numbersOfEntries, List.mem_append,
        beq_self_eq_true, Bool.true_and, Bool.and_eq_true,
        equals_substitute_iff old first second value,
        equalEntries_substitute_iff old first second entries, or_imp]

end

/-! ## Reflexivity and transitivity -/

theorem equals_self (value : Value) : value.equals value := by
  -- Nothing changes if a number takes its own place.
  have zero : Number := .float (.zero false)
  have iff := equals_substitute_iff zero zero zero value
  rw [substitute_self] at iff
  exact iff.2 fun _ => zero.equals_self

/-- None of some numbers is a double to which several integers are equal. -/
def Clear (numbers : List Number) : Prop :=
  ∀ value, .float value ∈ numbers → ¬ (Number.float value).Blurred

theorem clear_append {first second : List Number} :
    Clear (first ++ second) ↔ Clear first ∧ Clear second := by
  simp only [Clear, List.mem_append, or_imp, forall_and]

mutual

theorem equals_of_equals : ∀ middle : Value, Clear middle.numbers → ∀ first last : Value,
    first.equals middle → middle.equals last → first.equals last
  | .nil, _, first, last, before, behind => by
      cases first <;> cases before
      exact behind
  | .bool value, _, first, last, before, behind => by
      cases first with
      | bool left => exact eq_of_beq before ▸ behind
      | _ => cases before
  | .string text, _, first, last, before, behind => by
      cases first with
      | string left => exact eq_of_beq before ▸ behind
      | _ => cases before
  | .object host, _, first, last, before, behind => by
      cases first with
      | object left =>
          cases last with
          | object right => exact beq_iff_eq.2 ((eq_of_beq before).trans (eq_of_beq behind))
          | _ => cases behind
      | _ => cases before
  | .number value, clear, first, last, before, behind => by
      cases first with
      | number left =>
          cases last with
          | number right =>
              refine Number.equals_of_equals (fun float isFloat => ?_) before behind
              rw [isFloat] at clear ⊢
              exact clear float (List.mem_singleton_self _)
          | _ => cases behind
      | _ => cases before
  | .sequence items, clear, first, last, before, behind => by
      cases first with
      | sequence lefts =>
          cases last with
          | sequence rights => exact equalItems_of_equalItems items clear lefts rights before behind
          | _ => cases behind
      | _ => cases before
  | .mapping entries, clear, first, last, before, behind => by
      cases first with
      | mapping lefts =>
          cases last with
          | mapping rights =>
              exact equalEntries_of_equalEntries entries clear lefts rights before behind
          | _ => cases behind
      | _ => cases before

theorem equalItems_of_equalItems : ∀ middles : List Value, Clear (numbersOfItems middles) →
    ∀ firsts lasts : List Value,
      equalItems firsts middles → equalItems middles lasts → equalItems firsts lasts
  | [], _, firsts, lasts, before, behind => by
      cases firsts with
      | nil => exact behind
      | cons => cases before
  | middle :: middles, clear, firsts, lasts, before, behind => by
      obtain ⟨here, later⟩ := clear_append.1 clear
      cases firsts with
      | nil => cases before
      | cons first firsts =>
          cases lasts with
          | nil => cases behind
          | cons last lasts =>
              rw [equalItems, Bool.and_eq_true] at before behind ⊢
              exact ⟨equals_of_equals middle here first last before.1 behind.1,
                equalItems_of_equalItems middles later firsts lasts before.2 behind.2⟩

theorem equalEntries_of_equalEntries : ∀ middles : List (String × Value),
    Clear (numbersOfEntries middles) → ∀ firsts lasts : List (String × Value),
      equalEntries firsts middles → equalEntries middles lasts → equalEntries firsts lasts
  | [], _, firsts, lasts, before, behind => by
      cases firsts with
      | nil => exact behind
      | cons => cases before
  | (name, middle) :: middles, clear, firsts, lasts, before, behind => by
      obtain ⟨here, later⟩ := clear_append.1 clear
      cases firsts with
      | nil => cases before
      | cons first firsts =>
          cases lasts with
          | nil => cases behind
          | cons last lasts =>
              obtain ⟨left, first⟩ := first
              obtain ⟨right, last⟩ := last
              simp only [equalEntries, Bool.and_eq_true, beq_iff_eq] at before behind ⊢
              exact ⟨⟨before.1.1.trans behind.1.1,
                equals_of_equals middle here first last before.1.2 behind.1.2⟩,
                equalEntries_of_equalEntries middles later firsts lasts before.2 behind.2⟩

end

/-- Equality is transitive through just those values that hold no blurred double. -/
theorem forall_equals_iff {middle : Value} :
    (∀ first last : Value, first.equals middle → middle.equals last → first.equals last) ↔
      Clear middle.numbers := by
  constructor
  · intro transitive value member
    refine Number.forall_equals_iff.1 (fun first last before behind => ?_) value rfl
    -- Equal numbers in its place make values that equal this one.
    have left := equals_substitute_iff (.float value) first (.float value) middle
    have right := equals_substitute_iff (.float value) (.float value) last middle
    rw [substitute_self] at left right
    have joined := transitive _ _ (left.2 fun _ => before) (right.2 fun _ => behind)
    exact (equals_substitute_iff (.float value) first last middle).1 joined member
  · intro clear
    exact equals_of_equals middle clear

/-! ## Values in the same groups -/

mutual

/-- A number in a value equals one in each value that this one equals. -/
theorem exists_number_of_equals : ∀ first second : Value, first.equals second →
    ∀ number ∈ second.numbers, ∃ other ∈ first.numbers, other.equals number
  | _, .nil, _, _, member | _, .bool _, _, _, member | _, .string _, _, _, member
  | _, .object _, _, _, member => nomatch member
  | first, .number value, equal, held, member => by
      cases first with
      | number left =>
          cases List.mem_singleton.1 member
          exact ⟨left, List.mem_singleton_self _, equal⟩
      | _ => cases equal
  | first, .sequence items, equal, held, member => by
      cases first with
      | sequence lefts => exact exists_number_of_equalItems lefts items equal held member
      | _ => cases equal
  | first, .mapping entries, equal, held, member => by
      cases first with
      | mapping lefts => exact exists_number_of_equalEntries lefts entries equal held member
      | _ => cases equal

theorem exists_number_of_equalItems : ∀ firsts seconds : List Value, equalItems firsts seconds →
    ∀ number ∈ numbersOfItems seconds, ∃ other ∈ numbersOfItems firsts, other.equals number
  | _, [], _, _, member => nomatch member
  | firsts, second :: seconds, equal, held, member => by
      cases firsts with
      | nil => cases equal
      | cons first firsts =>
          rw [equalItems, Bool.and_eq_true] at equal
          rw [numbersOfItems, List.mem_append] at member
          rcases member with here | later
          · obtain ⟨other, found, same⟩ := exists_number_of_equals first second equal.1 held here
            exact ⟨other, List.mem_append_left _ found, same⟩
          · obtain ⟨other, found, same⟩ :=
              exists_number_of_equalItems firsts seconds equal.2 held later
            exact ⟨other, List.mem_append_right _ found, same⟩

theorem exists_number_of_equalEntries : ∀ firsts seconds : List (String × Value),
    equalEntries firsts seconds →
    ∀ number ∈ numbersOfEntries seconds, ∃ other ∈ numbersOfEntries firsts, other.equals number
  | _, [], _, _, member => nomatch member
  | firsts, (name, second) :: seconds, equal, held, member => by
      cases firsts with
      | nil => cases equal
      | cons first firsts =>
          obtain ⟨left, first⟩ := first
          rw [equalEntries, Bool.and_eq_true, Bool.and_eq_true] at equal
          rw [numbersOfEntries, List.mem_append] at member
          rcases member with here | later
          · obtain ⟨other, found, same⟩ :=
              exists_number_of_equals first second equal.1.2 held here
            exact ⟨other, List.mem_append_left _ found, same⟩
          · obtain ⟨other, found, same⟩ :=
              exists_number_of_equalEntries firsts seconds equal.2 held later
            exact ⟨other, List.mem_append_right _ found, same⟩

end

/-- Just those values that hold no blurred number have the same equals as each value that they
equal. -/
theorem forall_equals_congr_iff {first : Value} :
    (∀ second : Value, first.equals second →
        ∀ value : Value, value.equals first = value.equals second) ↔
      ∀ number ∈ first.numbers, ¬ number.Blurred := by
  constructor
  · intro congruent old member
    refine Number.forall_equals_congr_iff.1 fun number equal other => ?_
    have replaced := equals_substitute_iff old old number first
    rw [substitute_self] at replaced
    have same := congruent _ (replaced.2 fun _ => equal) (first.substitute old other)
    have left := equals_substitute_iff old other old first
    have right := equals_substitute_iff old other number first
    rw [substitute_self] at left
    rw [Bool.eq_iff_iff, left, right] at same
    rw [Bool.eq_iff_iff]
    simpa [member] using same
  · intro clear second equal value
    have firstClear : Clear first.numbers := fun float member => clear (.float float) member
    have secondClear : Clear second.numbers := by
      intro float member
      obtain ⟨number, found, same⟩ := exists_number_of_equals first second equal _ member
      exact mt (Number.blurred_congr (Number.quanta_eq_of_equals same)).2 (clear number found)
    rw [Bool.eq_iff_iff]
    constructor
    · intro before
      exact equals_of_equals first firstClear value second before equal
    · intro before
      rw [equals_comm] at equal
      exact equals_of_equals second secondClear value first before equal

/--
Two values fall into the same groups: a sequence that contains one contains the
other, a case chooses the same part for both, and from the end of a sequence
both are dropped as repeated, or none.
-/
structure GroupedAlike (first second : Value) : Prop where
  contained : ∀ items, contains (.sequence items) first = contains (.sequence items) second
  applies : ∀ (ν : Type) (case : When ν) (scope : Scope) (left right : Value),
    left.comparable = first → right.comparable = second →
      case.applies scope left = case.applies scope right
  dropped : ∀ items argument,
    Filter.uniq (.sequence (items ++ [first])) argument = Filter.uniq (.sequence items) argument ↔
      Filter.uniq (.sequence (items ++ [second])) argument = Filter.uniq (.sequence items) argument

theorem addNew_eq_self_iff {kept : List Value} {item : Value} :
    Filter.addNew kept item = kept ↔ kept.any (·.equals item) := by
  unfold Filter.addNew
  split
  · next found => exact iff_of_true rfl found
  · next absent => exact iff_of_false (by simp) absent

/-- An item is dropped if it equals one that was kept. -/
theorem uniq_concat_eq_iff (items : List Value) (item : Value) (argument : Option Value) :
    Filter.uniq (.sequence (items ++ [item])) argument = Filter.uniq (.sequence items) argument ↔
      (items.foldl Filter.addNew []).any (·.equals item) := by
  rw [Filter.uniq, Filter.uniq, List.foldl_append, List.foldl_cons, List.foldl_nil, sequence.injEq,
    addNew_eq_self_iff]

theorem groupedAlike_iff {first second : Value} :
    GroupedAlike first second ↔ ∀ value : Value, value.equals first = value.equals second := by
  constructor
  · intro alike value
    simpa [contains] using alike.contained [value]
  · intro same
    have pointwise : (fun value : Value => value.equals first) = (·.equals second) := funext same
    constructor
    · intro items
      rw [contains, contains, pointwise]
    · rintro ν case scope left right rfl rfl
      simp only [When.applies, same]
    · intro items argument
      rw [uniq_concat_eq_iff, uniq_concat_eq_iff, pointwise]

/--
A value equals itself, and what it equals equals it.  Equality is transitive
through it just if it holds no double to which several integers are equal, and
it is grouped with all its equals just if it holds no number that equals such a
double.
-/
theorem equals_trans_iff (value : Value) :
    value.equals value ∧
      (∀ other : Value, value.equals other = other.equals value) ∧
      ((∀ first last : Value, first.equals value → value.equals last → first.equals last) ↔
        ∀ double, .float double ∈ value.numbers → ¬ (Number.float double).Blurred) ∧
      ((∀ other : Value, value.equals other → GroupedAlike value other) ↔
        ∀ number ∈ value.numbers, ¬ number.Blurred) := by
  refine ⟨equals_self value, equals_comm value, forall_equals_iff, ?_⟩
  simp only [groupedAlike_iff]
  exact forall_equals_congr_iff

/-- The number one, as an integer and as a double. -/
theorem equals_trans_iff_one :
    let double : FiniteDouble :=
      ⟨false, FiniteDouble.one, ⟨1, 1074, by decide, by decide +kernel⟩, by decide +kernel⟩
    let first := sequence [.number (.integer 1 (by decide))]
    let middle := sequence [.number (.float double)]
    first.equals middle ∧ (∀ last, middle.equals last → first.equals last) ∧
      GroupedAlike middle first := by
  intro double first middle
  obtain ⟨-, symmetric, transitive, grouped⟩ := equals_trans_iff middle
  have equal : first.equals middle := by decide +kernel
  have clear : ¬ (Number.float double).Blurred :=
    Number.not_blurred_of_small (by decide +kernel)
  refine ⟨equal, fun last => transitive.2 ?_ first last equal, ?_⟩
  · intro value member
    cases List.mem_singleton.1 member
    exact clear
  · refine grouped.2 ?_ first ((symmetric first).trans equal)
    intro number member
    cases List.mem_singleton.1 member
    exact clear

/-- The double `2 ^ 53` equals itself as an integer, and the integer behind it. -/
theorem equals_not_trans :
    let double : FiniteDouble :=
      ⟨false, 9007199254740992 * FiniteDouble.one, ⟨1, 1127, by decide, by decide +kernel⟩,
        by decide +kernel⟩
    let first := sequence [.number (.integer 9007199254740993 (by decide))]
    let middle := sequence [.number (.float double)]
    let last := sequence [.number (.integer 9007199254740992 (by decide))]
    first.equals middle ∧ middle.equals last ∧ ¬ first.equals last := by
  decide +kernel

end Value

end Stencil
