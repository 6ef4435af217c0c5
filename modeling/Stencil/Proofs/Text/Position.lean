import Stencil.Proofs.Number.Decimal
import Stencil.Proofs.Text.Location

/-!
# Positions from lines and columns

A line and a column lead back to the byte position that they were taken from:
behind the line ends before the line, and behind the characters before the
column.  They are in the order of the positions, so that no two positions of a
source share them.
-/

namespace Stencil

namespace Text

/-- A byte position between two characters divides a text. -/
theorem exists_append_of_isValid {source : String} {position : Nat}
    (valid : String.Pos.Raw.IsValid source ⟨position⟩) :
    ∃ before rest, source.toList = before ++ rest ∧ width before = position := by
  obtain ⟨before, rest, rfl, same⟩ := String.Pos.Raw.isValid_iff_exists_append.1 valid
  refine ⟨before.toList, rest.toList, String.toList_append, ?_⟩
  rw [width_eq_utf8ByteSize, String.ofList_toList]
  exact (congrArg String.Pos.Raw.byteIdx same).symm

/-- Of two texts with which a source begins, the narrower one begins the other. -/
theorem exists_append_of_width_lt {first second rest other : List Char}
    (same : first ++ rest = second ++ other) (less : width first < width second) :
    ∃ between, between ≠ [] ∧ second = first ++ between := by
  rcases List.append_eq_append_iff.1 same with ⟨between, rfl, -⟩ | ⟨between, rfl, -⟩
  · refine ⟨between, ?_, rfl⟩
    rintro rfl
    simp at less
  · rw [width_append] at less
    omega

/-! ## Skipping lines and characters -/

/-- What stands behind a number of line ends of a text, if it has that many. -/
def skipLines? : Nat → List Char → Option (List Char)
  | 0, text => some text
  | _ + 1, [] => none
  | lines + 1, char :: chars =>
      if char = '\n' then skipLines? lines chars else skipLines? (lines + 1) chars

/-- What stands behind a number of characters of a text, if it has that many. -/
def skipChars? (count : Nat) (text : List Char) : Option (List Char) :=
  if count ≤ text.length then some (text.drop count) else none

theorem skipLines?_zero (text : List Char) : skipLines? 0 text = some text := by
  cases text <;> rfl

/-- The last of some line ends is the first one behind the others. -/
theorem skipLines?_succ (lines : Nat) (text : List Char) :
    skipLines? (lines + 1) text = (skipLines? lines text).bind (skipLines? 1) := by
  induction text generalizing lines with
  | nil => cases lines <;> rfl
  | cons char text ih =>
      cases lines with
      | zero => rfl
      | succ lines =>
          rw [skipLines?, skipLines?]
          split
          · exact ih lines
          · exact ih (lines + 1)

theorem skipLines?_one {line : List Char} (single : '\n' ∉ line) (rest : List Char) :
    skipLines? 1 (line ++ '\n' :: rest) = some rest := by
  induction line with
  | nil => exact skipLines?_zero rest
  | cons char line ih =>
      obtain ⟨differs, later⟩ := not_or.1 (mt List.mem_cons.2 single)
      rw [List.cons_append, skipLines?, if_neg (Ne.symm differs), ih later]

theorem skipChars?_append (first rest : List Char) :
    skipChars? first.length (first ++ rest) = some rest := by
  rw [skipChars?, if_pos (by simp), List.drop_left]

theorem lineEnd_not_mem_lastLine (text : List Char) : '\n' ∉ lastLine text := by
  intro member
  have differs := List.mem_rtakeWhile_imp member
  simp at differs

/-- Behind all line ends of a text stands its last line, and whatever follows the text. -/
theorem skipLines?_count_append (text rest : List Char) :
    skipLines? (text.count '\n') (text ++ rest) = some (lastLine text ++ rest) := by
  induction text using List.reverseRecOn generalizing rest with
  | nil => exact skipLines?_zero rest
  | append_singleton text char ih =>
      rw [lastLine_concat, List.append_assoc, List.singleton_append, List.count_append]
      by_cases lineEnd : char = '\n'
      · subst lineEnd
        rw [if_pos rfl, List.count_singleton_self, skipLines?_succ, ih, Option.bind_some,
          skipLines?_one (lineEnd_not_mem_lastLine text), List.nil_append]
      · rw [if_neg lineEnd, List.count_singleton, if_neg (by simpa using lineEnd), Nat.add_zero, ih,
          List.append_assoc, List.singleton_append]

namespace Location

/-! ## The order of places -/

/-- The order of places in reading: by lines, and by columns in a line. -/
def Before (first second : Location) : Prop :=
  first.line < second.line ∨ first.line = second.line ∧ first.column < second.column

theorem Before.trans {first second third : Location} (earlier : first.Before second)
    (later : second.Before third) : first.Before third := by
  unfold Before at *
  omega

theorem before_advance (location : Location) (char : Char) :
    location.Before (location.advance char) := by
  unfold advance
  split
  · exact .inl (Nat.lt_succ_self _)
  · exact .inr ⟨rfl, Nat.lt_succ_self _⟩

/-- Every character leads on to a later place. -/
theorem before_foldl_advance {text : List Char} (nonempty : text ≠ []) (location : Location) :
    location.Before (text.foldl advance location) := by
  induction text generalizing location with
  | nil => exact absurd rfl nonempty
  | cons char text ih =>
      have step := location.before_advance char
      cases text with
      | nil => exact step
      | cons next text => exact step.trans (ih (List.cons_ne_nil _ _) _)

theorem of_width_eq_after (before rest : List Char) :
    of (before ++ rest) (width before) = after before := by
  rw [of, takeWidth_width_append, Option.getD_some]

theorem before_of_width_lt {first second rest other : List Char}
    (same : first ++ rest = second ++ other) (less : width first < width second) :
    (of (first ++ rest) (width first)).Before (of (first ++ rest) (width second)) := by
  obtain ⟨between, nonempty, extended⟩ := exists_append_of_width_lt same less
  rw [of_width_eq_after, same, of_width_eq_after, extended, after, after, List.foldl_append]
  exact before_foldl_advance nonempty _

/-! ## Back to the position -/

/-- The byte position behind the line ends before a line and the characters before a column. -/
def position? (location : Location) (source : List Char) : Option Nat := do
  let lines ← skipLines? (location.line - 1) source
  let rest ← skipChars? (location.column - 1) lines
  return width source - width rest

theorem position?_of_width (before rest : List Char) :
    (of (before ++ rest) (width before)).position? (before ++ rest) = some (width before) := by
  rw [of_width, position?]
  simp only [Nat.add_sub_cancel, skipLines?_count_append, skipChars?_append, bind, Option.bind_some]
  rw [width_append, Nat.add_sub_cancel]
  rfl

/-- The numbers of a place can be told from its text. -/
theorem text_inj {first second : Location} : first.text = second.text ↔ first = second := by
  refine ⟨fun same => ?_, congrArg text⟩
  have noColon (number : Nat) : ':' ∉ Nat.toDigits 10 number := fun member =>
    absurd (Decimal.isDigit_of_mem_toDigits member) (by decide)
  have chars : Nat.toDigits 10 first.line ++ ':' :: Nat.toDigits 10 first.column =
      Nat.toDigits 10 second.line ++ ':' :: Nat.toDigits 10 second.column := by
    simpa [text, Nat.toString_eq_repr] using congrArg String.toList same
  obtain ⟨lines, -, columns⟩ :=
    (List.append_cons_inj_of_notMem (noColon first.line) (noColon first.column)).1 chars
  have lineSame := congrArg Decimal.ofDigits lines
  have columnSame := congrArg Decimal.ofDigits columns
  rw [Decimal.ofDigits_toDigits, Decimal.ofDigits_toDigits] at lineSame columnSame
  cases first
  cases second
  exact congrArg₂ Location.mk lineSame columnSame

theorem line_of_width_le (before rest : List Char) :
    (of (before ++ rest) (width before)).line ≤ 1 + (before ++ rest).count '\n' := by
  rw [of_width, List.count_append]
  dsimp only
  omega

/--
The byte positions between the characters of a source are told apart by their
lines and columns.  These are in the order of the positions; the line is one of
the source, and the position stands behind the line ends before the line and the
characters before the column.  So no two positions are shown alike.
-/
theorem of_identifies (source : String) :
    (∀ first second, String.Pos.Raw.IsValid source ⟨first⟩ →
      String.Pos.Raw.IsValid source ⟨second⟩ → first < second →
        (of source.toList first).Before (of source.toList second)) ∧
    (∀ position, String.Pos.Raw.IsValid source ⟨position⟩ →
      1 ≤ (of source.toList position).line ∧
        (of source.toList position).line ≤ 1 + source.toList.count '\n' ∧
        (of source.toList position).position? source.toList = some position) ∧
    (∀ first second, String.Pos.Raw.IsValid source ⟨first⟩ →
      String.Pos.Raw.IsValid source ⟨second⟩ →
        (of source.toList first).text = (of source.toList second).text → first = second) := by
  have back {position : Nat} (valid : String.Pos.Raw.IsValid source ⟨position⟩) :
      (of source.toList position).position? source.toList = some position := by
    obtain ⟨before, rest, whole, rfl⟩ := exists_append_of_isValid valid
    rw [whole, position?_of_width]
  refine ⟨fun first second validFirst validSecond less => ?_, fun position valid => ?_,
    fun first second validFirst validSecond same => ?_⟩
  · obtain ⟨before, rest, whole, rfl⟩ := exists_append_of_isValid validFirst
    obtain ⟨further, other, again, rfl⟩ := exists_append_of_isValid validSecond
    rw [whole]
    exact before_of_width_lt (whole.symm.trans again) less
  · refine ⟨?_, ?_, back valid⟩
    · rw [of, after_eq]
      exact Nat.le_add_left 1 _
    · obtain ⟨before, rest, whole, rfl⟩ := exists_append_of_isValid valid
      rw [whole]
      exact line_of_width_le before rest
  · have shown := back validFirst
    rw [text_inj.1 same, back validSecond] at shown
    exact (Option.some.inj shown).symm

/-- Places on a line end, behind it, and between wide characters. -/
theorem of_identifies_wide :
    let source := "é\nü\n\n😀x"
    let place (position : Nat) := of source.toList position
    [place 0, place 2, place 3, place 5, place 6, place 7, place 11, place 12] =
        [⟨1, 1⟩, ⟨1, 2⟩, ⟨2, 1⟩, ⟨2, 2⟩, ⟨3, 1⟩, ⟨4, 1⟩, ⟨4, 2⟩, ⟨4, 3⟩] ∧
      (place 6).Before (place 11) ∧ (place 11).position? source.toList = some 11 := by
  intro source place
  have valid (before rest : String) (same : source = before ++ rest) :
      String.Pos.Raw.IsValid source ⟨before.utf8ByteSize⟩ :=
    String.Pos.Raw.isValid_iff_exists_append.2 ⟨before, rest, same, rfl⟩
  have six : String.Pos.Raw.IsValid source ⟨6⟩ := valid "é\nü\n" "\n😀x" (by decide)
  have eleven : String.Pos.Raw.IsValid source ⟨11⟩ := valid "é\nü\n\n😀" "x" (by decide)
  obtain ⟨ordered, recovered, -⟩ := of_identifies source
  exact ⟨by decide, ordered 6 11 six eleven (by decide), (recovered 11 eleven).2.2⟩

end Location

end Text

end Stencil
