import Stencil.Proofs.Checked
import Stencil.Proofs.Piece.Quotation

/-!
# Scanning one piece

What scanning finds at the beginning of a source: a text run up to the first
delimiter, a span or a quotation.
-/

namespace Stencil

namespace Delimiter

theorem opens?_eq_none_iff {source : List Char} :
    opens? source = none ↔ ∀ delimiter : Delimiter, ¬ delimiter.opening <+: source := by
  constructor
  · rintro plain delimiter ⟨rest, rfl⟩
    simp at plain
  · intro plain
    cases opened : opens? source with
    | none => rfl
    | some pair =>
        obtain ⟨delimiter, rest⟩ := pair
        exact absurd ⟨rest, (eq_append_of_opens? opened).symm⟩ (plain delimiter)

theorem opens?_eq_none_of_prefix {first second : List Char} (shorter : first <+: second)
    (plain : opens? second = none) : opens? first = none := by
  rw [opens?_eq_none_iff] at plain ⊢
  exact fun delimiter opens => plain delimiter (opens.trans shorter)

theorem opens?_of_ne_brace {char : Char} (plain : char ≠ '{') (chars : List Char) :
    opens? (char :: chars) = none := by
  unfold opens?
  split <;> simp_all

/-- Two characters decide whether a delimiter opens. -/
theorem opens?_append_eq_none {source : List Char} (long : 2 ≤ source.length)
    (plain : opens? source = none) (rest : List Char) : opens? (source ++ rest) = none := by
  rw [opens?_eq_none_iff] at plain ⊢
  intro delimiter opens
  refine plain delimiter (List.prefix_of_prefix_length_le opens ?_ ?_)
  · exact List.prefix_append source rest
  · cases delimiter <;> exact long

theorem head?_of_opens? {source : List Char} (opens : (opens? source).isSome) :
    source.head? = some '{' := by
  obtain ⟨⟨delimiter, rest⟩, opened⟩ := Option.isSome_iff_exists.1 opens
  rw [eq_append_of_opens? opened]
  cases delimiter <;> rfl

end Delimiter

namespace Piece

/-- A text in which nothing opens. -/
def Plain (content : List Char) : Prop :=
  ∀ delimiter : Delimiter, ¬ delimiter.opening <:+: content

@[simp]
theorem plain_nil : Plain [] := by
  intro delimiter occurs
  cases delimiter <;> simpa [Delimiter.opening] using occurs.length_le

theorem plain_cons_iff {char : Char} {chars : List Char} :
    Plain (char :: chars) ↔ Delimiter.opens? (char :: chars) = none ∧ Plain chars := by
  simp only [Plain, Delimiter.opens?_eq_none_iff, List.infix_cons_iff, not_or, forall_and]

/-- What may stand behind a text run: nothing, or a piece that the run does not open early. -/
def TextEnd (content rest : List Char) : Prop :=
  rest = [] ∨ (Delimiter.opens? rest).isSome ∧ content.getLast? ≠ some '{'

theorem TextEnd.of_cons {char : Char} {content rest : List Char}
    (ends : TextEnd (char :: content) rest) : TextEnd content rest := by
  rcases ends with rfl | ⟨opens, last⟩
  · exact .inl rfl
  · refine .inr ⟨opens, ?_⟩
    cases content with
    | nil => simp
    | cons next content => simpa using last

/-- A text run goes up to the first delimiter. -/
theorem spanText_spec (text : List Char) :
    Plain (spanText text).1 ∧ TextEnd (spanText text).1 (spanText text).2 := by
  induction text with
  | nil => exact ⟨plain_nil, .inl rfl⟩
  | cons char chars ih =>
      obtain ⟨plain, ends⟩ := ih
      have parts := spanText_append chars
      simp only [spanText]
      split
      · next opened => exact ⟨plain_nil, .inr ⟨by simp [opened], by simp⟩⟩
      · next closed =>
          constructor
          · rw [plain_cons_iff]
            refine ⟨Delimiter.opens?_eq_none_of_prefix ⟨(spanText chars).2, ?_⟩ closed, plain⟩
            rw [List.cons_append, parts]
          · rcases ends with finished | ⟨opens, last⟩
            · exact .inl finished
            · refine .inr ⟨opens, ?_⟩
              cases run : (spanText chars).1 with
              | cons next content => simpa [run] using last
              | nil =>
                  rw [run, List.nil_append] at parts
                  obtain ⟨⟨delimiter, rest⟩, opened⟩ := Option.isSome_iff_exists.1 opens
                  have whole := Delimiter.eq_append_of_opens? opened
                  rw [parts] at whole
                  rintro brace
                  obtain rfl : char = '{' := by simpa using brace
                  rw [whole] at closed
                  cases delimiter <;> simp [Delimiter.opening, Delimiter.opens?] at closed

theorem spanText_of_opens {rest : List Char} (opens : (Delimiter.opens? rest).isSome) :
    spanText rest = ([], rest) := by
  cases rest with
  | nil => simp [Delimiter.opens?] at opens
  | cons char chars =>
      obtain ⟨pair, opened⟩ := Option.isSome_iff_exists.1 opens
      simp [spanText, opened]

/-- A plain text in front of what may end it opens nothing. -/
theorem opens?_append_of_plain {char : Char} {content rest : List Char}
    (plain : Plain (char :: content)) (ends : TextEnd (char :: content) rest) :
    Delimiter.opens? (char :: (content ++ rest)) = none := by
  by_cases brace : char = '{'
  · cases content with
    | nil =>
        rcases ends with rfl | ⟨-, last⟩
        · rw [List.append_nil]
          exact (plain_cons_iff.1 plain).1
        · exact absurd (by simp [brace]) last
    | cons next content =>
        have closed := (plain_cons_iff.1 plain).1
        exact Delimiter.opens?_append_eq_none (by simp) closed rest
  · exact Delimiter.opens?_of_ne_brace brace _

theorem spanText_append_of_plain {content rest : List Char} (plain : Plain content)
    (ends : TextEnd content rest) : spanText (content ++ rest) = (content, rest) := by
  induction content with
  | nil =>
      rcases ends with rfl | ⟨opens, -⟩
      · rfl
      · exact spanText_of_opens opens
  | cons char content ih =>
      have closed := opens?_append_of_plain plain ends
      simp [spanText, closed, ih (plain_cons_iff.1 plain).2 ends.of_cons]

/-! ## Scanning one piece -/

variable {position : Nat}

@[simp]
theorem scan_nil : scan position [] = .ok [] := by
  rw [scan]
  split
  · next opened => simp [Delimiter.opens?] at opened
  · rfl

theorem scan_text {char : Char} {chars : List Char}
    (plain : Delimiter.opens? (char :: chars) = none) :
    scan position (char :: chars) =
      (scan (position + Text.width (spanText (char :: chars)).1) (spanText (char :: chars)).2).map
        (.text (spanText (char :: chars)).1 :: ·) := by
  rw [scan]
  split
  · next opened => simp [plain] at opened
  · rfl

/-- Behind a delimiter a span ends where its other delimiter stands, and a quotation goes on from
there. -/
theorem scan_opening (delimiter : Delimiter) (inside : List Char) :
    scan position (delimiter.opening ++ inside) =
      match Text.cut delimiter.closing inside with
      | none => .error ⟨.unterminated delimiter, position⟩
      | some (content, rest) =>
          match if delimiter = .block then Quotation.ofTag? content else none with
          | none =>
              (scan (position + Text.width (enclose delimiter content)) rest).map
                (.span delimiter content :: ·)
          | some kind =>
              match kind.split? 0 rest with
              | none => .error ⟨.unclosed kind, insidePosition position content⟩
              | some (body, closing, behind) =>
                  (scan (position + Text.width (quotation kind content body closing).source)
                    behind).map (.quotation kind content body closing :: ·) := by
  rw [scan]
  split
  · next other found opened =>
      obtain ⟨rfl, rfl⟩ : delimiter = other ∧ inside = found := by simpa using opened
      split
      · next missing => rw [missing]
      · next content rest foundAt =>
          rw [foundAt]
          dsimp only
          generalize (if delimiter = .block then Quotation.ofTag? content else none) = quoted
          cases quoted with
          | none => rfl
          | some kind =>
              dsimp only
              split
              · next missing => rw [missing]
              · next splitAt => rw [splitAt]
  · next closed => simp at closed

theorem scan_unterminated {delimiter : Delimiter} {inside : List Char}
    (missing : Text.cut delimiter.closing inside = none) :
    scan position (delimiter.opening ++ inside) = .error ⟨.unterminated delimiter, position⟩ := by
  rw [scan_opening, missing]

theorem scan_span {delimiter : Delimiter} {inside content rest : List Char}
    (cutAt : Text.cut delimiter.closing inside = some (content, rest))
    (single : delimiter = .block → Quotation.ofTag? content = none) :
    scan position (delimiter.opening ++ inside) =
      (scan (position + Text.width (enclose delimiter content)) rest).map
        (.span delimiter content :: ·) := by
  have none_quoted : (if delimiter = .block then Quotation.ofTag? content else none) = none :=
    ite_eq_right_iff.2 single
  rw [scan_opening, cutAt]
  simp only [none_quoted]

section Quoting

variable {inside content rest : List Char} {kind : Quotation}
  (cutAt : Text.cut Delimiter.block.closing inside = some (content, rest))
  (opens : Quotation.ofTag? content = some kind)

include cutAt opens

theorem scan_unclosed (missing : kind.split? 0 rest = none) :
    scan position (Delimiter.block.opening ++ inside) =
      .error ⟨.unclosed kind, insidePosition position content⟩ := by
  rw [scan_opening, cutAt]
  simp only [if_true, opens, missing]

theorem scan_quotation {body closing behind : List Char}
    (split : kind.split? 0 rest = some (body, closing, behind)) :
    scan position (Delimiter.block.opening ++ inside) =
      (scan (position + Text.width (quotation kind content body closing).source) behind).map
        (.quotation kind content body closing :: ·) := by
  rw [scan_opening, cutAt]
  simp only [if_true, opens, split]

end Quoting

end Piece

end Stencil
