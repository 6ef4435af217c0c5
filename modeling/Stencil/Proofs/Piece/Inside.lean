import Stencil.Proofs.Piece.Tiling

/-!
# Insides of spans

What stands in a span between two single blanks is shown as it is, when no
blank is at its own ends and the closing delimiter does not occur in it.  Such
insides are put together from such parts by separators without any character
of the delimiter.
-/

namespace Stencil

namespace Text

/-- Texts with a separator between them, from the first on. -/
theorem intercalate_cons_eq (separator first : List Char) (texts : List (List Char)) :
    List.intercalate separator (first :: texts) =
      first ++ texts.flatMap fun text => separator ++ text := by
  induction texts generalizing first with
  | nil => simp
  | cons text texts ih =>
      rw [List.intercalate_cons_cons, ih, List.flatMap_cons]
      simp

end Text

namespace Delimiter

/-- A text that a span shows as it stands, between blanks. -/
structure Holds (delimiter : Delimiter) (inner : List Char) : Prop where
  begins : ∃ char, inner.head? = some char ∧ Text.isBlank char = false
  ends : ∃ char, inner.getLast? = some char ∧ Text.isBlank char = false
  free : ¬ delimiter.closing <:+: inner

/-- The inside of a span with a blank on both sides. -/
def pad (inner : List Char) : List Char :=
  ' ' :: inner ++ [' ']

variable {delimiter : Delimiter}

theorem closing_ne_nil (delimiter : Delimiter) : delimiter.closing ≠ [] := by
  cases delimiter <;> simp [closing]

theorem space_not_mem_closing (delimiter : Delimiter) : ' ' ∉ delimiter.closing := by
  cases delimiter <;> decide

theorem Holds.exists_cons {inner : List Char} (holds : delimiter.Holds inner) :
    ∃ char chars, inner = char :: chars ∧ Text.isBlank char = false := by
  obtain ⟨char, head, solid⟩ := holds.begins
  obtain ⟨chars, rfl⟩ := List.head?_eq_some_iff.1 head
  exact ⟨char, chars, rfl, solid⟩

theorem Holds.trimStart_pad {inner : List Char} (holds : delimiter.Holds inner) :
    Text.trimStart (pad inner) = inner ++ [' '] := by
  obtain ⟨char, chars, rfl, solid⟩ := holds.exists_cons
  exact (Text.trimStart_append_of_blank Text.isBlank_of_mem_space _).trans
    (Text.trimStart_cons_of_not_blank solid (chars ++ [' ']))

/-- Between blanks an inside is found again. -/
theorem Holds.trim_append {inner leading trailing : List Char} (holds : delimiter.Holds inner)
    (blankBefore : ∀ char ∈ leading, Text.isBlank char = true)
    (blankBehind : ∀ char ∈ trailing, Text.isBlank char = true) :
    Text.trim (leading ++ (inner ++ trailing)) = inner := by
  rw [← List.append_assoc, Text.trim_append_of_blank blankBefore blankBehind,
    Text.trim_of_ends holds.begins holds.ends]

theorem Holds.trim_pad {inner : List Char} (holds : delimiter.Holds inner) :
    Text.trim (pad inner) = inner :=
  @Holds.trim_append delimiter inner [' '] [' '] holds Text.isBlank_of_mem_space
    Text.isBlank_of_mem_space

/-- A blank closes off what is in front of a delimiter. -/
theorem closedBy_pad {inner : List Char} (free : ¬ delimiter.closing <:+: inner) :
    Text.ClosedBy delimiter.closing (pad inner) := by
  refine Text.closedBy_concat (space_not_mem_closing delimiter) ?_
  intro occurs
  have foreign := space_not_mem_closing delimiter
  rcases (@Text.infix_append_cons_iff _ [] inner ' ' foreign (closing_ne_nil delimiter)).1
    occurs with empty | inside
  · exact closing_ne_nil delimiter (List.eq_nil_of_infix_nil empty)
  · exact free inside

theorem Holds.closedBy_pad {inner : List Char} (holds : delimiter.Holds inner) :
    Text.ClosedBy delimiter.closing (pad inner) :=
  Delimiter.closedBy_pad holds.free

/-! ## Putting insides together -/

/-- Whether no character of a text could be part of the closing delimiter. -/
def isForeign (delimiter : Delimiter) (text : List Char) : Bool :=
  text.all fun char => !delimiter.closing.contains char

theorem isForeign_cons {char : Char} {chars : List Char} :
    delimiter.isForeign (char :: chars) ↔
      char ∉ delimiter.closing ∧ delimiter.isForeign chars := by
  simp [isForeign]

theorem not_closing_infix_append {first second separator : List Char}
    (first_free : ¬ delimiter.closing <:+: first) (second_free : ¬ delimiter.closing <:+: second)
    (foreign : delimiter.isForeign separator) (nonempty : separator ≠ []) :
    ¬ delimiter.closing <:+: first ++ (separator ++ second) := by
  induction separator generalizing first with
  | nil => exact absurd rfl nonempty
  | cons char separator ih =>
      obtain ⟨here, later⟩ := isForeign_cons.1 foreign
      rw [List.cons_append, Text.infix_append_cons_iff here (closing_ne_nil delimiter), not_or]
      refine ⟨first_free, ?_⟩
      cases separator with
      | nil => exact second_free
      | cons next separator =>
          have empty : ¬ delimiter.closing <:+: ([] : List Char) :=
            fun occurs => closing_ne_nil delimiter (List.eq_nil_of_infix_nil occurs)
          exact ih empty later (by simp)

theorem isForeign_of_blank {text : List Char}
    (blank : ∀ char ∈ text, Text.isBlank char = true) : delimiter.isForeign text := by
  have solid : delimiter.closing.all fun char => !Text.isBlank char := by
    cases delimiter <;> decide
  simp only [isForeign, List.all_eq_true, List.contains_eq_mem, Bool.not_eq_true',
    decide_eq_false_iff_not] at solid ⊢
  intro char member closes
  have white := blank char member
  rw [solid char closes] at white
  cases white

theorem not_closing_infix_foreign_append {leading text : List Char}
    (foreign : delimiter.isForeign leading) (free : ¬ delimiter.closing <:+: text) :
    ¬ delimiter.closing <:+: leading ++ text := by
  by_cases empty : leading = []
  · rwa [empty]
  · have start : ¬ delimiter.closing <:+: [] :=
      fun occurs => closing_ne_nil delimiter (List.eq_nil_of_infix_nil occurs)
    exact not_closing_infix_append start free foreign empty

/-- Between blanks a text that the closing delimiter does not run into goes up to it. -/
theorem closedBy_of_blank {inner leading trailing : List Char}
    (free : ¬ delimiter.closing <:+: inner)
    (unbraced : delimiter = .output → inner.getLast? ≠ some '}')
    (blankBefore : ∀ char ∈ leading, Text.isBlank char = true)
    (blankBehind : ∀ char ∈ trailing, Text.isBlank char = true) :
    Text.ClosedBy delimiter.closing (leading ++ inner ++ trailing) := by
  refine Text.closedBy_of_not_infix (closing_ne_nil delimiter) ?_
  rw [List.append_assoc, List.append_assoc]
  refine not_closing_infix_foreign_append (isForeign_of_blank blankBefore) ?_
  by_cases empty : trailing = []
  · -- Only at the end of the text could the delimiter begin too early.
    rw [empty, List.nil_append]
    intro occurs
    cases delimiter with
    | output =>
        refine (List.infix_concat_iff.1 occurs).elim (fun ends => ?_) free
        obtain ⟨before, same⟩ := ends
        rw [closing, ← List.singleton_append, ← List.append_assoc] at same
        rw [← List.append_cancel_right same] at unbraced
        simp at unbraced
    | block =>
        refine (List.infix_concat_iff.1 occurs).elim (fun ends => ?_) free
        obtain ⟨before, same⟩ := ends
        have last := congrArg List.getLast? same
        simp [closing] at last
  · refine not_closing_infix_append free ?_ (isForeign_of_blank blankBehind) empty
    cases delimiter <;> decide

/-- Blanks around a text hold nothing of the closing delimiter. -/
theorem not_closing_infix_of_trim {text : List Char}
    (free : ¬ delimiter.closing <:+: Text.trim text) : ¬ delimiter.closing <:+: text := by
  obtain ⟨trailing, whole, blank⟩ := Text.exists_trim_append text
  rw [whole, List.append_assoc]
  refine not_closing_infix_foreign_append
    (isForeign_of_blank fun _ => Text.isBlank_of_mem_leadingBlanks) ?_
  by_cases empty : trailing = []
  · rwa [empty, List.append_nil]
  · have none : ¬ delimiter.closing <:+: ([] : List Char) :=
      fun occurs => closing_ne_nil delimiter (List.eq_nil_of_infix_nil occurs)
    simpa using not_closing_infix_append free none (isForeign_of_blank blank) empty

theorem Holds.append {first second separator : List Char} (holds : delimiter.Holds first)
    (following : delimiter.Holds second) (foreign : delimiter.isForeign separator)
    (nonempty : separator ≠ []) :
    delimiter.Holds (first ++ (separator ++ second)) where
  begins := by
    obtain ⟨char, head, solid⟩ := holds.begins
    exact ⟨char, by rw [List.head?_append, head, Option.some_or], solid⟩
  ends := by
    obtain ⟨char, last, solid⟩ := following.ends
    exact ⟨char, by rw [List.getLast?_append, List.getLast?_append, last]; rfl, solid⟩
  free := not_closing_infix_append holds.free following.free foreign nonempty

theorem not_closing_infix_append_flatMap {α : Type} {first separator : List Char}
    {print : α → List Char} {items : List α} (free : ¬ delimiter.closing <:+: first)
    (following : ∀ item ∈ items, ¬ delimiter.closing <:+: print item)
    (foreign : delimiter.isForeign separator) (nonempty : separator ≠ []) :
    ¬ delimiter.closing <:+: first ++ items.flatMap fun item => separator ++ print item := by
  induction items generalizing first with
  | nil => simpa using free
  | cons item items ih =>
      obtain ⟨here, later⟩ := List.forall_mem_cons.1 following
      have both := ih (not_closing_infix_append free here foreign nonempty) later
      simpa using both

theorem Holds.append_flatMap {α : Type} {first separator : List Char} {print : α → List Char}
    {items : List α} (holds : delimiter.Holds first)
    (following : ∀ item ∈ items, delimiter.Holds (print item))
    (foreign : delimiter.isForeign separator) (nonempty : separator ≠ []) :
    delimiter.Holds (first ++ items.flatMap fun item => separator ++ print item) := by
  induction items generalizing first with
  | nil => simpa using holds
  | cons item items ih =>
      obtain ⟨here, later⟩ := List.forall_mem_cons.1 following
      have both := ih (holds.append here foreign nonempty) later
      simpa using both

theorem not_closing_infix_of_foreign {text : List Char}
    (foreign : ∀ char ∈ text, char ∉ delimiter.closing) : ¬ delimiter.closing <:+: text := by
  intro occurs
  obtain ⟨char, more, same⟩ := List.exists_cons_of_ne_nil (closing_ne_nil delimiter)
  have member : char ∈ delimiter.closing := by simp [same]
  exact foreign char (occurs.subset member) member

theorem holds_of_solid {text : List Char} (nonempty : text ≠ [])
    (solid : ∀ char ∈ text, Text.isBlank char = false) (free : ¬ delimiter.closing <:+: text) :
    delimiter.Holds text where
  begins := ⟨text.head nonempty, List.head?_eq_some_head nonempty,
    solid _ (List.head_mem nonempty)⟩
  ends := ⟨text.getLast nonempty, List.getLast?_eq_some_getLast nonempty,
    solid _ (List.getLast_mem nonempty)⟩
  free

/-- A text between quotes may hold any blanks. -/
theorem holds_quoted {quote : Char} {content : List Char} (solid : Text.isBlank quote = false)
    (foreign : quote ∉ delimiter.closing) (free : ¬ delimiter.closing <:+: content) :
    delimiter.Holds (quote :: (content ++ [quote])) where
  begins := ⟨quote, rfl, solid⟩
  ends := ⟨quote, by rw [← List.cons_append, List.getLast?_concat], solid⟩
  free := by
    have empty : ¬ delimiter.closing <:+: ([] : List Char) :=
      fun occurs => closing_ne_nil delimiter (List.eq_nil_of_infix_nil occurs)
    have single : delimiter.isForeign [quote] := isForeign_cons.2 ⟨foreign, rfl⟩
    have closed := not_closing_infix_append free empty single (List.cons_ne_nil quote [])
    exact not_closing_infix_append empty closed single (List.cons_ne_nil quote [])

theorem holds_of_trim {text : List Char} (nonempty : text ≠ []) (trimmed : Text.trim text = text)
    (free : ¬ delimiter.closing <:+: text) : delimiter.Holds text :=
  ⟨(Text.exists_ends_of_trim nonempty trimmed).1, (Text.exists_ends_of_trim nonempty trimmed).2,
    free⟩

end Delimiter

end Stencil
