import Mathlib.Data.List.DropRight
import Mathlib.Data.List.TakeWhile
import Stencil.Text.Blank

/-!
# Trimming

Trimming takes blanks from both ends of a text and nothing else, and a text
whose ends are not blank survives it.
-/

namespace Stencil

namespace Text

theorem isBlank_of_printable {char : Char} (above : 33 ≤ char.toNat)
    (below : char.toNat ≤ 126) : isBlank char = false := by
  simp [isBlank]
  omega

theorem isBlank_of_mem_space : ∀ char ∈ [' '], isBlank char = true :=
  List.forall_mem_singleton.2 rfl

/-- The blanks that trimming takes away at the beginning. -/
def leadingBlanks (text : List Char) : List Char :=
  text.takeWhile isBlank

theorem isBlank_of_mem_leadingBlanks {text : List Char} {char : Char}
    (member : char ∈ leadingBlanks text) : isBlank char = true :=
  List.mem_takeWhile_imp member

@[simp]
theorem leadingBlanks_append_trimStart (text : List Char) :
    leadingBlanks text ++ trimStart text = text :=
  List.takeWhile_append_dropWhile

/-- The blanks that trimming takes away at the end. -/
theorem exists_trimEnd_append (text : List Char) :
    ∃ trailing, text = trimEnd text ++ trailing ∧ ∀ char ∈ trailing, isBlank char = true := by
  refine ⟨(text.reverse.takeWhile isBlank).reverse, ?_, ?_⟩
  · rw [trimEnd, ← List.reverse_append, List.takeWhile_append_dropWhile, List.reverse_reverse]
  · intro char member
    exact List.mem_takeWhile_imp (List.mem_reverse.1 member)

theorem exists_trim_append (text : List Char) :
    ∃ trailing, text = leadingBlanks text ++ trim text ++ trailing ∧
      ∀ char ∈ trailing, isBlank char = true := by
  obtain ⟨trailing, whole, blank⟩ := exists_trimEnd_append (trimStart text)
  refine ⟨trailing, ?_, blank⟩
  rw [trim, List.append_assoc, ← whole, leadingBlanks_append_trimStart]

theorem trimStart_append_of_blank {leading : List Char}
    (blank : ∀ char ∈ leading, isBlank char = true) (text : List Char) :
    trimStart (leading ++ text) = trimStart text :=
  List.dropWhile_append_of_pos blank

theorem trimStart_cons_of_not_blank {char : Char} (solid : isBlank char = false)
    (chars : List Char) :
    trimStart (char :: chars) = char :: chars :=
  List.dropWhile_cons_of_neg (by simp [solid])

/-- Trimming the beginning stops at a character that is no blank. -/
theorem trimStart_append_cons {char : Char} (solid : isBlank char = false)
    (text more : List Char) :
    trimStart (text ++ char :: more) = trimStart text ++ char :: more := by
  induction text with
  | nil => exact trimStart_cons_of_not_blank solid more
  | cons first text ih =>
      cases blank : isBlank first with
      | false => simp [trimStart_cons_of_not_blank blank]
      | true => simpa [trimStart, List.dropWhile_cons_of_pos blank] using ih

theorem trimEnd_append_of_blank {trailing : List Char}
    (blank : ∀ char ∈ trailing, isBlank char = true) (text : List Char) :
    trimEnd (text ++ trailing) = trimEnd text := by
  have blankReverse : ∀ char ∈ trailing.reverse, isBlank char = true :=
    fun char member => blank char (List.mem_reverse.1 member)
  rw [trimEnd, List.reverse_append, List.dropWhile_append_of_pos blankReverse, trimEnd]

theorem trimEnd_concat_of_not_blank {char : Char} (solid : isBlank char = false)
    (text : List Char) :
    trimEnd (text ++ [char]) = text ++ [char] := by
  rw [trimEnd, List.reverse_append, List.reverse_singleton, List.singleton_append,
    List.dropWhile_cons_of_neg (by simp [solid])]
  simp

theorem exists_head?_of_trimStart {text : List Char} (nonempty : text ≠ [])
    (kept : trimStart text = text) : ∃ char, text.head? = some char ∧ isBlank char = false := by
  have solid := List.head?_dropWhile_not isBlank text
  obtain ⟨char, chars, rfl⟩ := List.exists_cons_of_ne_nil nonempty
  rw [← trimStart, kept] at solid
  exact ⟨char, rfl, by simpa using solid⟩

theorem exists_getLast?_of_trimEnd {text : List Char} (nonempty : text ≠ [])
    (kept : trimEnd text = text) : ∃ char, text.getLast? = some char ∧ isBlank char = false := by
  have keptReverse : trimStart text.reverse = text.reverse :=
    calc
      trimStart text.reverse = (trimEnd text).reverse := by
        rw [trimEnd, List.reverse_reverse, trimStart]
      _ = text.reverse := by rw [kept]
  obtain ⟨char, head, solid⟩ := exists_head?_of_trimStart (by simpa using nonempty) keptReverse
  exact ⟨char, by rwa [List.head?_reverse] at head, solid⟩

/-- A text that trimming leaves alone begins and ends with what is no blank. -/
theorem exists_ends_of_trim {text : List Char} (nonempty : text ≠ []) (trimmed : trim text = text) :
    (∃ char, text.head? = some char ∧ isBlank char = false) ∧
      ∃ char, text.getLast? = some char ∧ isBlank char = false := by
  have start : trimStart text = text := by
    obtain ⟨trailing, whole, -⟩ := exists_trimEnd_append (trimStart text)
    have shorter := congrArg List.length whole
    rw [← trim, trimmed, List.length_append] at shorter
    exact (List.dropWhile_suffix isBlank).eq_of_length_le (Nat.le.intro shorter.symm)
  rw [trim, start] at trimmed
  exact ⟨exists_head?_of_trimStart nonempty start, exists_getLast?_of_trimEnd nonempty trimmed⟩

theorem trim_of_ends {text : List Char}
    (begins : ∃ char, text.head? = some char ∧ isBlank char = false)
    (ends : ∃ char, text.getLast? = some char ∧ isBlank char = false) : trim text = text := by
  obtain ⟨first, head, solidFirst⟩ := begins
  obtain ⟨last, tail, solidLast⟩ := ends
  have start : trimStart text = text := by
    obtain ⟨chars, rfl⟩ := List.head?_eq_some_iff.1 head
    exact trimStart_cons_of_not_blank solidFirst chars
  obtain ⟨chars, rfl⟩ := List.getLast?_eq_some_iff.1 tail
  rw [trim, start, trimEnd_concat_of_not_blank solidLast]

/-- What trimming leaves of a text begins and ends with what is no blank. -/
theorem exists_ends_trim {text : List Char} (nonempty : trim text ≠ []) :
    (∃ char, (trim text).head? = some char ∧ isBlank char = false) ∧
      ∃ char, (trim text).getLast? = some char ∧ isBlank char = false := by
  constructor
  · obtain ⟨trailing, whole, -⟩ := exists_trimEnd_append (trimStart text)
    rw [← trim] at whole
    have solid : trimStart text ≠ [] := by
      rw [whole]
      exact List.append_ne_nil_of_left_ne_nil nonempty trailing
    obtain ⟨char, head, notBlank⟩ :=
      exists_head?_of_trimStart solid (List.dropWhile_idempotent isBlank text)
    rw [whole, List.head?_append_of_ne_nil _ nonempty] at head
    exact ⟨char, head, notBlank⟩
  · exact exists_getLast?_of_trimEnd nonempty
      (List.rdropWhile_idempotent isBlank (trimStart text))

theorem trim_trim (text : List Char) : trim (trim text) = trim text := by
  by_cases empty : trim text = []
  · rw [empty]
    rfl
  · obtain ⟨begins, ends⟩ := exists_ends_trim empty
    exact trim_of_ends begins ends

/-- The run of characters of a class is a text when the next character is not of the class. -/
theorem span_append_eq {accepts : Char → Bool} {text rest : List Char}
    (accepted : ∀ char ∈ text, accepts char = true)
    (ends : ∀ char, rest.head? = some char → accepts char = false) :
    (text ++ rest).takeWhile accepts = text ∧ (text ++ rest).dropWhile accepts = rest := by
  rw [List.takeWhile_append_of_pos accepted, List.dropWhile_append_of_pos accepted]
  cases rest with
  | nil => simp
  | cons char rest => simp [ends char rfl]

/-- A word is what stands up to a blank or the end. -/
theorem span_word {word rest : List Char} (solid : ∀ char ∈ word, isBlank char = false)
    (ends : ∀ char, rest.head? = some char → isBlank char = true) :
    untilBlank (word ++ rest) = word ∧ fromBlank (word ++ rest) = rest := by
  apply span_append_eq
  · intro char member
    rw [solid char member, Bool.not_false]
  · intro char head
    rw [ends char head, Bool.not_true]

/-! ## Blanks around a text -/

theorem trimStart_eq_nil_of_blank {text : List Char}
    (blank : ∀ char ∈ text, isBlank char = true) : trimStart text = [] :=
  List.dropWhile_eq_nil_iff.2 blank

/-- Blanks around a text are trimmed with its own. -/
theorem trim_append_of_blank {leading trailing : List Char}
    (blankBefore : ∀ char ∈ leading, isBlank char = true)
    (blankBehind : ∀ char ∈ trailing, isBlank char = true) (text : List Char) :
    trim (leading ++ text ++ trailing) = trim text := by
  rw [trim, List.append_assoc, trimStart_append_of_blank blankBefore, trimStart,
    List.dropWhile_append]
  split
  · next empty =>
      rw [← trimStart, trimStart_eq_nil_of_blank blankBehind, trim, trimStart,
        List.isEmpty_iff.1 empty]
  · exact trimEnd_append_of_blank blankBehind _

theorem untilBlank_append_of_blank {trailing : List Char}
    (blank : ∀ char ∈ trailing, isBlank char = true) (text : List Char) :
    untilBlank (text ++ trailing) = untilBlank text := by
  induction text with
  | nil =>
      cases trailing with
      | nil => rfl
      | cons char trailing => simp [untilBlank, blank char List.mem_cons_self]
  | cons char text ih =>
      unfold untilBlank at ih ⊢
      rw [List.cons_append, List.takeWhile_cons, List.takeWhile_cons, ih]

/-- The blanks between a word and what follows it are in neither of them. -/
theorem words_between {word gap rest : List Char} (solid : ∀ char ∈ word, isBlank char = false)
    (blank : ∀ char ∈ gap, isBlank char = true) (nonempty : gap ≠ []) :
    untilBlank (word ++ (gap ++ rest)) = word ∧
      trimStart (fromBlank (word ++ (gap ++ rest))) = trimStart rest := by
  have ends : ∀ char, (gap ++ rest).head? = some char → isBlank char = true := by
    intro char head
    rw [List.head?_append_of_ne_nil _ nonempty] at head
    exact blank char (List.mem_of_head? head)
  obtain ⟨same, behind⟩ := span_word solid ends
  exact ⟨same, by rw [behind, trimStart_append_of_blank blank]⟩

/-- Behind the first word of a text, and behind blanks, stands the rest of it. -/
theorem exists_eq_word_append {text : List Char} (nonempty : trimStart (fromBlank text) ≠ []) :
    ∃ word gap, text = word ++ (gap ++ trimStart (fromBlank text)) ∧
      (∀ char ∈ word, isBlank char = false) ∧ (∀ char ∈ gap, isBlank char = true) ∧ gap ≠ [] := by
  refine ⟨untilBlank text, leadingBlanks (fromBlank text), ?_, fun char member => ?_,
    fun _ => isBlank_of_mem_leadingBlanks, fun none => ?_⟩
  · rw [leadingBlanks_append_trimStart, untilBlank, fromBlank, List.takeWhile_append_dropWhile]
  · simpa using List.mem_takeWhile_imp member
  · -- What follows the word begins with a blank.
    have solid := List.head?_dropWhile_not (fun char => !isBlank char) text
    rw [← fromBlank] at solid
    cases behind : fromBlank text with
    | nil => exact nonempty (by rw [behind]; rfl)
    | cons char rest =>
        rw [behind] at solid none
        have blank : isBlank char = true := by simpa using solid
        simp [leadingBlanks, blank] at none

/-- The first word of a text is the first one of what trimming leaves. -/
theorem firstWord_eq_untilBlank_trim (text : List Char) :
    firstWord text = untilBlank (trim text) := by
  obtain ⟨trailing, whole, blank⟩ := exists_trimEnd_append (trimStart text)
  rw [firstWord, whole, untilBlank_append_of_blank blank, trim]

theorem firstWord_trim (text : List Char) : firstWord (trim text) = firstWord text := by
  rw [firstWord_eq_untilBlank_trim, trim_trim, firstWord_eq_untilBlank_trim]

end Text

end Stencil
