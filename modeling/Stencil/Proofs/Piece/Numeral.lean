import Stencil.Proofs.Piece.Inside
import Stencil.Proofs.Segment.Concatenation
import Stencil.Proofs.Segment.Operands

/-!
# Another numeral in a span

A span stays one, at the same place and with the same keyword, when a numeral in
it is exchanged for another one.
-/

namespace Stencil

open Grammar (IsNumeral)

namespace Text

theorem ClosedBy.not_infix {needle text : List Char} (closed : ClosedBy needle text)
    (nonempty : needle ≠ []) : ¬ needle <:+: text ++ needle.dropLast := by
  rintro ⟨earlier, later, same⟩
  have whole : text ++ needle = earlier ++ needle ++ (later ++ [needle.getLast nonempty]) := by
    rw [← List.append_assoc, same, List.append_assoc, List.dropLast_append_getLast]
  have none := closed _ _ whole
  simp at none

/-- A text that begins and ends with what is no blank. -/
structure Solid (text : List Char) : Prop where
  begins : ∃ char, text.head? = some char ∧ isBlank char = false
  ends : ∃ char, text.getLast? = some char ∧ isBlank char = false

/-- Characters that are no blanks, in place of others. -/
theorem Solid.exchange {front old back text : List Char} (solid : Solid (front ++ (old ++ back)))
    (nonempty : text ≠ []) (notBlank : ∀ char ∈ text, isBlank char = false) :
    Solid (front ++ (text ++ back)) where
  begins := by
    obtain ⟨char, head, first⟩ := solid.begins
    by_cases empty : front = []
    · subst empty
      rw [List.nil_append, List.head?_append_of_ne_nil _ nonempty]
      exact ⟨_, List.head?_eq_some_head nonempty, notBlank _ (List.head_mem nonempty)⟩
    · rw [List.head?_append_of_ne_nil _ empty] at head ⊢
      exact ⟨char, head, first⟩
  ends := by
    obtain ⟨char, tail, last⟩ := solid.ends
    rw [← List.append_assoc] at tail ⊢
    by_cases empty : back = []
    · subst empty
      rw [List.append_nil, List.getLast?_append_of_ne_nil _ nonempty]
      exact ⟨_, List.getLast?_eq_some_getLast nonempty, notBlank _ (List.getLast_mem nonempty)⟩
    · rw [List.getLast?_append_of_ne_nil _ empty] at tail ⊢
      exact ⟨char, tail, last⟩

end Text

namespace Delimiter

variable {delimiter : Delimiter} {front old back text : List Char}

/-- Characters that are foreign to the closing delimiter, in place of others. -/
theorem closedBy_exchange (closed : Text.ClosedBy delimiter.closing (front ++ (old ++ back)))
    (foreign : delimiter.isForeign text) (nonempty : text ≠ []) :
    Text.ClosedBy delimiter.closing (front ++ (text ++ back)) := by
  have free := closed.not_infix (closing_ne_nil delimiter)
  rw [List.append_assoc, List.append_assoc] at free
  refine Text.closedBy_of_not_infix (closing_ne_nil delimiter) ?_
  rw [List.append_assoc, List.append_assoc]
  refine not_closing_infix_append (fun occurs => free ?_) (fun occurs => free ?_) foreign nonempty
  · exact occurs.trans (List.prefix_append _ _).isInfix
  · exact occurs.trans ((List.suffix_append _ _).trans (List.suffix_append _ _)).isInfix

theorem isForeign_numeral {rule : Grammar.Rule} (numeral : IsNumeral back rule text) :
    delimiter.isForeign text := by
  have outside : delimiter.closing.all fun char => !Grammar.isInnerChar char := by
    cases delimiter <;> decide
  simp only [isForeign, List.all_eq_true, List.contains_eq_mem, Bool.not_eq_true',
    decide_eq_false_iff_not] at outside ⊢
  intro char member closes
  have inner := numeral.forall_isInnerChar char member
  rw [outside char closes] at inner
  cases inner

/-- No name or number goes on with what stands behind the inside of a span. -/
theorem isInnerChar_of_head?_closing {trailing second : List Char}
    (blank : ∀ char ∈ trailing, Text.isBlank char = true) (char : Char)
    (head : (trailing ++ (delimiter.closing ++ second)).head? = some char) :
    Grammar.isInnerChar char = false := by
  cases trailing with
  | nil =>
      cases delimiter <;> cases head <;> rfl
  | cons first trailing =>
      cases head
      cases inner : Grammar.isInnerChar char with
      | false => rfl
      | true =>
          have white := blank char List.mem_cons_self
          rw [Grammar.isBlank_of_isInnerChar inner] at white
          cases white

/-- A tag with operands is no raw tag, and its first word is in front of them. -/
theorem Leads.exists_keyword (leads : Delimiter.block.Leads front) :
    ∃ keyword, ∀ text, Text.untilBlank (front ++ text) = keyword ∧
      front ++ text ≠ Quotation.raw.opener := by
  obtain ⟨keyword, gap, lead, rfl, solid, blank, nonempty⟩ := leads rfl
  refine ⟨keyword, fun text => ?_⟩
  rw [List.append_assoc, List.append_assoc]
  exact ⟨(Text.words_between solid blank nonempty).1, Quotation.ne_raw_of_blank blank nonempty⟩

/-- With a numeral among its operands a tag opens no quotation that it does not open already. -/
theorem Leads.ofTag?_eq (leads : Delimiter.block.Leads front) {content other : List Char}
    (trimmed : Text.trim content = front ++ old) (retrimmed : Text.trim other = front ++ text) :
    Quotation.ofTag? content = Quotation.ofTag? other := by
  obtain ⟨keyword, known⟩ := leads.exists_keyword
  rw [Quotation.ofTag?, Quotation.ofTag?, Text.firstWord_eq_untilBlank_trim,
    Text.firstWord_eq_untilBlank_trim, trimmed, retrimmed, if_neg (known old).2,
    if_neg (known text).2, (known old).1, (known text).1]

end Delimiter

namespace Segment

theorem ofPiece_span (position : Nat) (delimiter : Delimiter) (content : List Char) :
    ofPiece position (.span delimiter content) =
      [ofInside delimiter (Text.trim content) (Piece.insidePosition position content)] := by
  cases delimiter <;> rfl

/-- A segment keeps its keyword with other operands. -/
theorem keyword?_ofInside {delimiter : Delimiter} {front : List Char}
    (leads : delimiter.Leads front) (text other : List Char) (position : Nat) :
    (ofInside delimiter (front ++ text) position).keyword? =
      (ofInside delimiter (front ++ other) position).keyword? := by
  cases delimiter with
  | output => rfl
  | block =>
      obtain ⟨keyword, known⟩ := leads.exists_keyword
      simp only [ofInside, keyword?, Tag.ofInside, (known text).1, (known other).1]

/-- Only spans have numerals. -/
theorem exists_span_of_mem_ofPieces {position : Nat} {pieces : List Piece} {segment : Segment}
    {numeral : Numeral} (member : segment ∈ ofPieces position pieces)
    (inside : numeral ∈ segment.numerals) :
    ∃ before delimiter content after, pieces = before ++ .span delimiter content :: after ∧
      segment = ofInside delimiter (Text.trim content)
        (Piece.insidePosition (position + Text.width (before.flatMap Piece.source)) content) := by
  induction pieces generalizing position with
  | nil => cases member
  | cons piece pieces ih =>
      rw [ofPieces, List.mem_append] at member
      rcases member with here | later
      · cases piece with
        | text content =>
            obtain rfl := List.mem_singleton.1 here
            cases inside
        | span delimiter content =>
            rw [ofPiece_span, List.mem_singleton] at here
            exact ⟨[], delimiter, content, pieces, rfl, here⟩
        | quotation =>
            obtain ⟨text, rfl⟩ := exists_text_of_mem_ofPiece here
            cases inside
      · obtain ⟨before, delimiter, content, after, rfl, same⟩ := ih later
        refine ⟨piece :: before, delimiter, content, after, rfl, ?_⟩
        rw [same, List.flatMap_cons, Text.width_append, Nat.add_assoc]

end Segment

namespace Piece

/-- Behind blanks the inside of a span begins where its first other character stands. -/
theorem insidePosition_of_blank {leading inner trailing : List Char} (position : Nat)
    (blank : ∀ char ∈ leading, Text.isBlank char = true)
    (begins : ∃ char, inner.head? = some char ∧ Text.isBlank char = false) :
    insidePosition position (leading ++ inner ++ trailing) =
      position + 2 + Text.width leading := by
  obtain ⟨char, head, solid⟩ := begins
  obtain ⟨chars, rfl⟩ := List.head?_eq_some_iff.1 head
  rw [insidePosition, List.append_assoc, Text.trimStart_append_of_blank blank, List.cons_append,
    Text.trimStart_cons_of_not_blank solid, Text.width_append]
  omega

/--
Where a numeral stands in a span, any other numeral that can stand there makes a
span at the same place.
-/
theorem exists_exchange {delimiter : Delimiter} {content front old back : List Char}
    {rule : Grammar.Rule} (wellFormed : (Piece.span delimiter content).WellFormed)
    (trimmed : Text.trim content = front ++ (old ++ back)) (isNumeral : IsNumeral back rule old)
    (leads : delimiter.Leads front) :
    ∃ leading trailing, content = leading ++ (front ++ (old ++ back)) ++ trailing ∧
      (∀ char ∈ trailing, Text.isBlank char = true) ∧
      ∀ kind text, IsNumeral back kind text →
        let other := leading ++ (front ++ (text ++ back)) ++ trailing
        (Piece.span delimiter other).WellFormed ∧ Text.trim other = front ++ (text ++ back) ∧
          ∀ position, insidePosition position other = position + 2 + Text.width leading := by
  obtain ⟨trailing, whole, blankBehind⟩ := Text.exists_trim_append content
  have blankBefore (char : Char) (member : char ∈ Text.leadingBlanks content) :
      Text.isBlank char = true := Text.isBlank_of_mem_leadingBlanks member
  refine ⟨Text.leadingBlanks content, trailing, by rw [← trimmed, ← whole], blankBehind,
    fun kind text numeral => ?_⟩
  have solid : Text.Solid (front ++ (text ++ back)) := by
    have nonempty : Text.trim content ≠ [] := by simp [trimmed, isNumeral.ne_nil]
    obtain ⟨begins, ends⟩ := Text.exists_ends_trim nonempty
    rw [trimmed] at begins ends
    exact Text.Solid.exchange ⟨begins, ends⟩ numeral.ne_nil numeral.forall_not_blank
  have retrimmed : Text.trim (Text.leadingBlanks content ++ (front ++ (text ++ back)) ++ trailing) =
      front ++ (text ++ back) := by
    rw [Text.trim_append_of_blank blankBefore blankBehind,
      Text.trim_of_ends solid.begins solid.ends]
  obtain ⟨closed, single⟩ := wellFormed
  refine ⟨⟨?_, ?_⟩, retrimmed, fun position => ?_⟩
  · rw [whole, trimmed] at closed
    have closed : Text.ClosedBy delimiter.closing
        ((Text.leadingBlanks content ++ front) ++ (old ++ (back ++ trailing))) := by
      simpa only [List.append_assoc] using closed
    simpa only [List.append_assoc] using
      Delimiter.closedBy_exchange closed (Delimiter.isForeign_numeral numeral) numeral.ne_nil
  · rintro rfl
    rw [← leads.ofTag?_eq trimmed retrimmed]
    exact single rfl
  · exact insidePosition_of_blank position blankBefore solid.begins

/-- What stands around a span in a source. -/
theorem Tiles.exists_around {source : List Char} {before after : List Piece}
    {delimiter : Delimiter} {content : List Char}
    (tiles : Tiles source (before ++ .span delimiter content :: after)) :
    (Piece.span delimiter content).WellFormed ∧
      ∃ second, source =
          before.flatMap Piece.source ++ ((Piece.span delimiter content).source ++ second) ∧
        Tiles (before.flatMap Piece.source) before ∧
        (before.flatMap Piece.source).getLast? ≠ some '{' ∧ Tiles second after := by
  have reached : ∃ second, (Piece.span delimiter content).WellFormed ∧ Tiles second after ∧
      TilesUpTo source before ((Piece.span delimiter content).source ++ second) := by
    induction before generalizing source with
    | nil =>
        cases tiles with
        | cons wellFormed _ tiles => exact ⟨_, wellFormed, tiles, .nil⟩
    | cons piece before ih =>
        cases tiles with
        | cons wellFormed ends tiles =>
            obtain ⟨second, here, later, upTo⟩ := ih tiles
            exact ⟨second, here, later, .cons wellFormed ends upTo⟩
  obtain ⟨second, wellFormed, later, upTo⟩ := reached
  have opens : (Delimiter.opens? ((Piece.span delimiter content).source ++ second)).isSome := by
    rw [Piece.source, enclose, List.append_assoc, List.append_assoc, Delimiter.opens?_append,
      Option.isSome_some]
  have whole := upTo.eq_append
  rw [whole] at upTo
  obtain ⟨tilesBefore, unbraced⟩ := (tilesUpTo_iff opens).1 upTo
  exact ⟨wellFormed, second, whole, tilesBefore, unbraced, later⟩

end Piece

end Stencil
