import Mathlib.Tactic.ByContra
import Stencil.Text.Search

/-!
# Occurrences

Cutting a text finds the first occurrence of a needle.  Whether a cut is the
first one is a property of what stands before it and of the needle alone, so a
cut stays where it is when more text is written behind.
-/

namespace Stencil

namespace Text

theorem after_eq_none_iff {opening text : List Char} :
    after opening text = none ↔ ¬ opening <+: text := by
  constructor
  · rintro missing ⟨rest, rfl⟩
    simp at missing
  · intro absent
    cases found : after opening text with
    | none => rfl
    | some rest => exact absurd ⟨rest, (eq_append_of_after found).symm⟩ absent

theorem after_append_right {opening text rest : List Char}
    (found : after opening text = some rest) (more : List Char) :
    after opening (text ++ more) = some (rest ++ more) := by
  rw [eq_append_of_after found, List.append_assoc, after_append]

theorem cut_of_after {needle text rest : List Char}
    (found : after needle text = some rest) :
    cut needle text = some ([], rest) := by
  cases text with
  | nil => simp [cut, found]
  | cons char chars => simp [cut, found]

/-- A text is cut wherever a needle occurs in it. -/
theorem cut_eq_none_iff {needle text : List Char} :
    cut needle text = none ↔ ¬ needle <:+: text := by
  induction text with
  | nil => simp [cut, after_eq_none_iff]
  | cons char chars ih =>
      rw [List.infix_cons_iff, not_or, ← after_eq_none_iff, ← ih]
      simp only [cut]
      cases here : after needle (char :: chars) with
      | none => simp
      | some rest => simp

theorem cut_append_right {needle text before rest : List Char}
    (found : cut needle text = some (before, rest)) (more : List Char) :
    cut needle (text ++ more) = some (before, rest ++ more) := by
  induction text generalizing before with
  | nil =>
      simp only [cut, Option.map_eq_some_iff, Prod.mk.injEq] at found
      obtain ⟨tail, here, rfl, rfl⟩ := found
      exact cut_of_after (after_append_right here more)
  | cons char chars ih =>
      simp only [cut] at found
      cases here : after needle (char :: chars) with
      | some tail =>
          simp only [here, Option.some.injEq, Prod.mk.injEq] at found
          obtain ⟨rfl, rfl⟩ := found
          exact cut_of_after (after_append_right here more)
      | none =>
          simp only [here, Option.map_eq_some_iff, Prod.mk.injEq, Prod.exists] at found
          obtain ⟨inner, tail, later, rfl, rfl⟩ := found
          have shifted : after needle (char :: (chars ++ more)) = none := by
            rw [after_eq_none_iff] at here ⊢
            intro opens
            have whole := eq_append_of_cut later
            have fits : needle.length ≤ (char :: chars).length := by
              rw [whole]
              simp only [List.length_cons, List.length_append]
              omega
            exact here (List.prefix_of_prefix_length_le opens
              (List.prefix_append (char :: chars) more) fits)
          simp [cut, shifted, ih later]

/-- A cut is no later than any occurrence of the needle. -/
theorem length_le_of_cut {needle earlier later before rest : List Char}
    (found : cut needle (earlier ++ needle ++ later) = some (before, rest)) :
    before.length ≤ earlier.length := by
  induction earlier generalizing before with
  | nil =>
      have here : after needle ([] ++ needle ++ later) = some later := by simp
      rw [cut_of_after here] at found
      simp only [Option.some.injEq, Prod.mk.injEq] at found
      simp [← found.1]
  | cons char earlier ih =>
      simp only [List.cons_append, cut] at found
      split at found
      · simp only [Option.some.injEq, Prod.mk.injEq] at found
        simp [← found.1]
      · simp only [Option.map_eq_some_iff, Prod.mk.injEq, Prod.exists] at found
        obtain ⟨inner, tail, next, rfl, rfl⟩ := found
        simpa using ih next

/-- The needle behind a text is its first occurrence: there is none that ends earlier. -/
def ClosedBy (needle before : List Char) : Prop :=
  ∀ earlier later, before ++ needle = earlier ++ needle ++ later → later = []

/-- A cut is at the first occurrence of the needle. -/
theorem cut_eq_some_iff {needle text before rest : List Char} :
    cut needle text = some (before, rest) ↔
      text = before ++ needle ++ rest ∧ ClosedBy needle before := by
  constructor
  · intro found
    have whole := eq_append_of_cut found
    refine ⟨whole, ?_⟩
    intro earlier later same
    rw [whole, same, List.append_assoc (earlier ++ needle)] at found
    have first := length_le_of_cut found
    have lengths := congrArg List.length same
    simp only [List.length_append] at lengths
    exact List.eq_nil_of_length_eq_zero (by omega)
  · rintro ⟨rfl, closed⟩
    cases found : cut needle (before ++ needle) with
    | none => exact absurd (List.suffix_append before needle).isInfix (cut_eq_none_iff.1 found)
    | some pair =>
        obtain ⟨inner, tail⟩ := pair
        have split := eq_append_of_cut found
        obtain rfl := closed inner tail split
        obtain rfl : before = inner := by simpa using split
        simpa using cut_append_right found rest

theorem ClosedBy.cut {needle before : List Char} (closed : ClosedBy needle before)
    (rest : List Char) :
    Text.cut needle (before ++ needle ++ rest) = some (before, rest) :=
  cut_eq_some_iff.2 ⟨rfl, closed⟩

theorem ClosedBy.of_append {needle first second : List Char}
    (closed : ClosedBy needle (first ++ second)) : ClosedBy needle second := by
  intro earlier later same
  refine closed (first ++ earlier) later ?_
  simp only [List.append_assoc] at same ⊢
  rw [same]

/-- A needle that occurs across a character of its own occurs on one side of it. -/
theorem infix_append_cons_iff {needle first second : List Char} {char : Char}
    (foreign : char ∉ needle) (nonempty : needle ≠ []) :
    needle <:+: first ++ char :: second ↔ needle <:+: first ∨ needle <:+: second := by
  rw [List.infix_append_iff_ne_nil, List.infix_cons_iff]
  constructor
  · rintro (inFirst | (opens | inSecond) | ⟨start, finish, -, finishNonempty, rfl, -, opens⟩)
    · exact .inl inFirst
    · cases needle with
      | nil => exact absurd rfl nonempty
      | cons head tail =>
          obtain ⟨rfl, -⟩ := List.cons_prefix_cons.1 opens
          exact absurd List.mem_cons_self foreign
    · exact .inr inSecond
    · cases finish with
      | nil => exact absurd rfl finishNonempty
      | cons head tail =>
          obtain ⟨rfl, -⟩ := List.cons_prefix_cons.1 opens
          exact absurd (by simp) foreign
  · rintro (inFirst | inSecond)
    · exact .inl inFirst
    · exact .inr (.inl (.inr inSecond))

/-- A needle is first behind a text if it does not occur without its last character. -/
theorem closedBy_of_not_infix {needle text : List Char} (nonempty : needle ≠ [])
    (absent : ¬ needle <:+: text ++ needle.dropLast) : ClosedBy needle text := by
  intro earlier later same
  by_contra laterNonempty
  have shorter := congrArg List.dropLast same
  rw [List.dropLast_append_of_ne_nil nonempty,
    List.dropLast_append_of_ne_nil laterNonempty] at shorter
  exact absent ⟨earlier, later.dropLast, shorter.symm⟩

/-- A single character is first behind a text that does not hold it. -/
theorem closedBy_singleton_iff {char : Char} {text : List Char} :
    ClosedBy [char] text ↔ char ∉ text := by
  constructor
  · intro closed member
    obtain ⟨earlier, later, rfl⟩ := List.append_of_mem member
    have ended := closed earlier (later ++ [char]) (by simp)
    simp at ended
  · intro absent
    refine closedBy_of_not_infix (List.cons_ne_nil _ _) fun occurs => absent ?_
    simpa using occurs.subset (List.mem_singleton_self char)

/-- A needle that does not occur in a text is closed off by a character of its own. -/
theorem closedBy_concat {needle text : List Char} {char : Char}
    (foreign : char ∉ needle) (absent : ¬ needle <:+: text) :
    ClosedBy needle (text ++ [char]) := by
  have nonempty : needle ≠ [] := fun empty => absent (empty ▸ List.nil_infix)
  refine closedBy_of_not_infix nonempty fun occurs => ?_
  rw [List.append_assoc, List.singleton_append, infix_append_cons_iff foreign nonempty] at occurs
  rcases occurs with inText | inNeedle
  · exact absent inText
  · have fits := inNeedle.length_le
    have positive := List.length_pos_iff.2 nonempty
    rw [List.length_dropLast] at fits
    omega

end Text

end Stencil
