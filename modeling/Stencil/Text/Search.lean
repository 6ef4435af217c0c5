/-!
# Searching texts

Occurrences of one text in another are found from the left and do not overlap.
`cut` finds the first one; splitting and deleting repeat it on what follows.
`cutLast` finds the last one, which may overlap with those before it.
-/

namespace Stencil

namespace Text

/-- What follows `opening` in a text that begins with it. -/
def after : (opening text : List Char) → Option (List Char)
  | [], text => some text
  | _ :: _, [] => none
  | expected :: opening, char :: chars =>
      if expected = char then after opening chars else none

theorem eq_append_of_after {opening text rest : List Char}
    (found : after opening text = some rest) :
    text = opening ++ rest := by
  induction opening generalizing text with
  | nil => simpa [after] using found
  | cons expected opening ih =>
      cases text with
      | nil => simp [after] at found
      | cons char chars =>
          simp only [after] at found
          split at found
          · next same =>
              rw [same, List.cons_append, ← ih found]
          · simp at found

@[simp]
theorem after_append (opening rest : List Char) :
    after opening (opening ++ rest) = some rest := by
  induction opening with
  | nil => rfl
  | cons char opening ih => simp [after, ih]

/-- The texts before and after the first occurrence of `needle`. -/
def cut (needle : List Char) : List Char → Option (List Char × List Char)
  | [] => (after needle []).map fun rest => ([], rest)
  | char :: chars =>
      match after needle (char :: chars) with
      | some rest => some ([], rest)
      | none => (cut needle chars).map fun (before, rest) => (char :: before, rest)

/-- Cutting loses nothing but the needle. -/
theorem eq_append_of_cut {needle text before rest : List Char}
    (found : cut needle text = some (before, rest)) :
    text = before ++ needle ++ rest := by
  induction text generalizing before with
  | nil =>
      simp only [cut, Option.map_eq_some_iff, Prod.mk.injEq] at found
      obtain ⟨tail, here, rfl, rfl⟩ := found
      simpa using eq_append_of_after here
  | cons char chars ih =>
      simp only [cut] at found
      split at found
      · next tail here =>
          simp only [Option.some.injEq, Prod.mk.injEq] at found
          obtain ⟨rfl, rfl⟩ := found
          simpa using eq_append_of_after here
      · simp only [Option.map_eq_some_iff, Prod.mk.injEq, Prod.exists] at found
        obtain ⟨inner, tail, later, rfl, rfl⟩ := found
        simp [ih later]

/-- What follows an occurrence is shorter than the text by the needle at least. -/
theorem length_of_cut {needle text before rest : List Char}
    (found : cut needle text = some (before, rest)) :
    rest.length + needle.length ≤ text.length := by
  rw [eq_append_of_cut found]
  simp only [List.length_append]
  omega

/-- The texts before and after the last occurrence of `needle`. -/
def cutLast (needle : List Char) : List Char → Option (List Char × List Char)
  | [] => (after needle []).map fun rest => ([], rest)
  | char :: chars =>
      match cutLast needle chars with
      | some (before, rest) => some (char :: before, rest)
      | none => (after needle (char :: chars)).map fun rest => ([], rest)

def occurs (needle text : List Char) : Bool :=
  (cut needle text).isSome

/-- The pieces of a text between the occurrences of a needle. -/
def splitOn (needle : List Char) (nonempty : needle ≠ []) (text : List Char) :
    List (List Char) :=
  match _found : cut needle text with
  | none => [text]
  | some (before, rest) => before :: splitOn needle nonempty rest
termination_by text.length
decreasing_by
  have shorter := length_of_cut _found
  have positive := List.length_pos_iff.2 nonempty
  omega

/-- The names of a path that is written with points. -/
def splitPath (text : List Char) : List (List Char) :=
  splitOn ['.'] (List.cons_ne_nil _ _) text

/-- A text without the occurrences of a needle. -/
def delete (needle : List Char) (nonempty : needle ≠ []) (text : List Char) : List Char :=
  match _found : cut needle text with
  | none => text
  | some (before, rest) => before ++ delete needle nonempty rest
termination_by text.length
decreasing_by
  have shorter := length_of_cut _found
  have positive := List.length_pos_iff.2 nonempty
  omega

def deleteFirst (needle text : List Char) : List Char :=
  match cut needle text with
  | none => text
  | some (before, rest) => before ++ rest

end Text

end Stencil
