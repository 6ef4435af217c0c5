import Stencil.Text.Width

/-!
# Slices

A part of a text between two byte positions.
-/

namespace Stencil

namespace Text

theorem width_eq_utf8ByteSize (text : List Char) :
    width text = (String.ofList text).utf8ByteSize := by
  induction text with
  | nil => rfl
  | cons char chars ih =>
      have single : (String.ofList [char]).utf8ByteSize = char.utf8Size := by
        rw [← String.singleton_eq_ofList, String.utf8ByteSize_singleton]
      rw [width_cons, ih, ← single, ← String.utf8ByteSize_append, ← String.ofList_append,
        List.singleton_append]

theorem width_pos {text : List Char} (nonempty : text ≠ []) : 0 < width text := by
  cases text with
  | nil => exact absurd rfl nonempty
  | cons char chars =>
      have positive := char.utf8Size_pos
      simp only [width_cons]
      omega

theorem takeWidth_width_append (first second : List Char) :
    takeWidth (width first) (first ++ second) = some first := by
  induction first with
  | nil => cases second <;> rfl
  | cons char chars ih =>
      have positive := char.utf8Size_pos
      obtain ⟨bytes, size⟩ : ∃ bytes, char.utf8Size + width chars = bytes + 1 :=
        ⟨char.utf8Size + width chars - 1, by omega⟩
      have fits : char.utf8Size ≤ bytes + 1 := by omega
      have remaining : bytes + 1 - char.utf8Size = width chars := by omega
      simp [size, takeWidth, fits, remaining, ih]

/-- A text is cut in two at a byte position in one way only. -/
theorem append_inj_of_width {first second rest other : List Char}
    (same : first ++ rest = second ++ other) (width_eq : width first = width second) :
    first = second ∧ rest = other := by
  have front : first = second := by
    have taken := takeWidth_width_append first rest
    rw [same, width_eq, takeWidth_width_append] at taken
    exact (Option.some.inj taken).symm
  subst front
  exact ⟨rfl, List.append_cancel_left same⟩

/-- The part of a text between two byte positions, if both stand between characters. -/
def slice? (text : List Char) (start stop : Nat) : Option (List Char) :=
  (takeWidth stop text).bind fun upTo =>
    (takeWidth start text).map fun before => upTo.drop before.length

theorem slice?_append (before inner after : List Char) :
    slice? (before ++ inner ++ after) (width before) (width before + width inner) =
      some inner := by
  rw [slice?, ← width_append, takeWidth_width_append, List.append_assoc before,
    takeWidth_width_append]
  simp

end Text

end Stencil
