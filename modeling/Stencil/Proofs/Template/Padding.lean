import Stencil.Proofs.Block.Position
import Stencil.Proofs.Piece.Inside
import Stencil.Proofs.Piece.Stop
import Stencil.Proofs.Segment.Decomposition
import Stencil.Template

/-!
# Blanks that do not matter

The blanks next to the delimiters of a span, and those between the keyword of a
tag and its arguments, can be exchanged for others: the source compiles to the
same nodes, or cannot be compiled for the same reason.
-/

namespace Stencil

/-- The inside of a span, with any blanks around it. -/
def Padded (inner content : List Char) : Prop :=
  ∃ leading trailing, content = leading ++ inner ++ trailing ∧
    (∀ char ∈ leading, Text.isBlank char = true) ∧ ∀ char ∈ trailing, Text.isBlank char = true

/-- A trimmed inside that a span can have: its closing delimiter comes behind it and not before. -/
structure Delimiter.Takes (delimiter : Delimiter) (inner : List Char) : Prop where
  trimmed : Text.trim inner = inner
  free : ¬ delimiter.closing <:+: inner
  unbraced : delimiter = .output → inner.getLast? ≠ some '}'

/-- Two texts between delimiters that differ in insignificant blanks only. -/
inductive Respaced : Delimiter → List Char → List Char → Prop
  /-- The blanks next to the delimiters. -/
  | around {delimiter : Delimiter} {inner content other : List Char}
      (takes : delimiter.Takes inner) (padded : Padded inner content)
      (repadded : Padded inner other) : Respaced delimiter content other
  /-- Those blanks, and the ones between the keyword of a tag and its arguments. -/
  | between {keyword gap another arguments content other : List Char}
      (takes : Delimiter.block.Takes (keyword ++ (gap ++ arguments)))
      (solid : ∀ char ∈ keyword, Text.isBlank char = false)
      (blank : ∀ char ∈ gap, Text.isBlank char = true) (nonempty : gap ≠ [])
      (reblank : ∀ char ∈ another, Text.isBlank char = true) (renonempty : another ≠ [])
      (padded : Padded (keyword ++ (gap ++ arguments)) content)
      (repadded : Padded (keyword ++ (another ++ arguments)) other) :
      Respaced .block content other

/-! ## What texts between delimiters say -/

theorem Padded.trim_eq {inner content : List Char} (padded : Padded inner content) :
    Text.trim content = Text.trim inner := by
  obtain ⟨leading, trailing, rfl, blankBefore, blankBehind⟩ := padded
  exact Text.trim_append_of_blank blankBefore blankBehind inner

theorem Padded.closedBy {delimiter : Delimiter} {inner content : List Char}
    (padded : Padded inner content) (free : ¬ delimiter.closing <:+: inner)
    (unbraced : delimiter = .output → inner.getLast? ≠ some '}') :
    Text.ClosedBy delimiter.closing content := by
  obtain ⟨leading, trailing, rfl, blankBefore, blankBehind⟩ := padded
  exact Delimiter.closedBy_of_blank free unbraced blankBefore blankBehind

/-- Two texts between delimiters with which a span is found at the same places and says the same. -/
structure Interchangeable (delimiter : Delimiter) (content other : List Char) : Prop where
  closedBy : Text.ClosedBy delimiter.closing content
  closedBy_other : Text.ClosedBy delimiter.closing other
  ofTag?_eq : Quotation.ofTag? content = Quotation.ofTag? other
  alike : ∀ position place, List.Forall₂ Segment.Alike
    (Segment.ofPiece position (.span delimiter content))
    (Segment.ofPiece place (.span delimiter other))

/-- The quotation that a tag opens is known from what trimming leaves. -/
theorem Quotation.ofTag?_eq_of_trim {content other : List Char}
    (raw_iff : Text.trim content = opener .raw ↔ Text.trim other = opener .raw)
    (word_eq : Text.untilBlank (Text.trim content) = Text.untilBlank (Text.trim other)) :
    ofTag? content = ofTag? other := by
  simp only [ofTag?, Text.firstWord_eq_untilBlank_trim, raw_iff, word_eq]

/-- A tag is read from its first word and from what follows this word. -/
theorem interchangeable_of_words {content other : List Char}
    (closedBy : Text.ClosedBy Delimiter.block.closing content)
    (closedBy_other : Text.ClosedBy Delimiter.block.closing other)
    (raw_iff : Text.trim content = Quotation.raw.opener ↔ Text.trim other = Quotation.raw.opener)
    (word_eq : Text.untilBlank (Text.trim content) = Text.untilBlank (Text.trim other))
    (arguments_eq : Text.trimStart (Text.fromBlank (Text.trim content)) =
      Text.trimStart (Text.fromBlank (Text.trim other))) :
    Interchangeable .block content other where
  closedBy
  closedBy_other
  ofTag?_eq := Quotation.ofTag?_eq_of_trim raw_iff word_eq
  alike _ _ := .cons (.block _ _ word_eq arguments_eq) .nil

section Between

variable {keyword gap another arguments : List Char}

/-- Other blanks between a keyword and its arguments leave the inside one that a tag can have. -/
theorem Delimiter.Takes.exchange (takes : Delimiter.block.Takes (keyword ++ (gap ++ arguments)))
    (blank : ∀ char ∈ gap, Text.isBlank char = true) (nonempty : gap ≠ [])
    (reblank : ∀ char ∈ another, Text.isBlank char = true) (renonempty : another ≠ []) :
    Delimiter.block.Takes (keyword ++ (another ++ arguments)) where
  trimmed := by
    have whole : keyword ++ (gap ++ arguments) ≠ [] := by simp [nonempty]
    obtain ⟨⟨first, head, solidFirst⟩, last, tail, solidLast⟩ :=
      Text.exists_ends_of_trim whole takes.trimmed
    -- Neither end of the inside is a blank, so both parts are there and have its ends.
    have keyword_ne : keyword ≠ [] := by
      rintro rfl
      rw [List.nil_append, List.head?_append_of_ne_nil _ nonempty] at head
      rw [blank first (List.mem_of_head? head)] at solidFirst
      cases solidFirst
    have arguments_ne : arguments ≠ [] := by
      rintro rfl
      rw [List.append_nil, List.getLast?_append_of_ne_nil _ nonempty] at tail
      rw [blank last (List.mem_of_getLast? tail)] at solidLast
      cases solidLast
    refine Text.trim_of_ends ⟨first, ?_, solidFirst⟩ ⟨last, ?_, solidLast⟩
    · rwa [List.head?_append_of_ne_nil _ keyword_ne] at head ⊢
    · rw [← List.append_assoc, List.getLast?_append_of_ne_nil _ arguments_ne] at tail ⊢
      exact tail
  free := by
    have keyword_free : ¬ Delimiter.block.closing <:+: keyword := fun occurs =>
      takes.free (occurs.trans (List.prefix_append _ _).isInfix)
    have arguments_free : ¬ Delimiter.block.closing <:+: arguments := fun occurs =>
      takes.free (occurs.trans ((List.suffix_append _ _).trans (List.suffix_append _ _)).isInfix)
    exact Delimiter.not_closing_infix_append keyword_free arguments_free
      (Delimiter.isForeign_of_blank reblank) renonempty
  unbraced := nofun

end Between

theorem Respaced.interchangeable {delimiter : Delimiter} {content other : List Char}
    (respaced : Respaced delimiter content other) : Interchangeable delimiter content other := by
  cases respaced with
  | @around _ inner _ _ takes padded repadded =>
      have closedBy := padded.closedBy takes.free takes.unbraced
      have closedBy_other := repadded.closedBy takes.free takes.unbraced
      have trim_eq : Text.trim content = Text.trim other :=
        padded.trim_eq.trans repadded.trim_eq.symm
      cases delimiter with
      | output =>
          refine ⟨closedBy, closedBy_other,
            Quotation.ofTag?_eq_of_trim (by rw [trim_eq]) (by rw [trim_eq]), fun _ _ => ?_⟩
          rw [Segment.ofPiece, Segment.ofPiece, trim_eq]
          exact .cons (.output _ _ _) .nil
      | block =>
          exact interchangeable_of_words closedBy closedBy_other (by rw [trim_eq])
            (by rw [trim_eq]) (by rw [trim_eq])
  | @between keyword gap another arguments _ _ takes solid blank nonempty reblank renonempty
      padded repadded =>
      have retakes := takes.exchange blank nonempty reblank renonempty
      obtain ⟨word, behind⟩ := @Text.words_between _ _ arguments solid blank nonempty
      obtain ⟨reword, rebehind⟩ := @Text.words_between _ _ arguments solid reblank renonempty
      refine interchangeable_of_words (padded.closedBy takes.free takes.unbraced)
        (repadded.closedBy retakes.free retakes.unbraced) ?_ ?_ ?_ <;>
        rw [padded.trim_eq, repadded.trim_eq, takes.trimmed, retakes.trimmed]
      · exact iff_of_false (Quotation.ne_raw_of_blank blank nonempty)
          (Quotation.ne_raw_of_blank reblank renonempty)
      · rw [word, reword]
      · rw [behind, rebehind]

/-! ## Pieces that say the same -/

namespace Segment

/-- Segments with the same content that stand at other places. -/
theorem alike_of_shown {first second : Segment} (same : first.shown = second.shown) :
    first.Alike second := by
  cases first <;> cases second <;> cases same
  · exact .text _
  · exact .output _ _ _
  · exact .block _ _ rfl rfl

/-- Pieces whose segments say the same, wherever they stand. -/
def SaySame (pieces others : List Piece) : Prop :=
  ∀ position place, List.Forall₂ Alike (ofPieces position pieces) (ofPieces place others)

namespace SaySame

theorem refl (pieces : List Piece) : SaySame pieces pieces := by
  intro position place
  have shown := (shown_ofPieces position pieces).trans (shown_ofPieces place pieces).symm
  rw [← List.forall₂_eq_eq_eq, List.forall₂_map_left_iff, List.forall₂_map_right_iff] at shown
  exact shown.imp fun _ _ => alike_of_shown

theorem cons {piece other : Piece} {pieces others : List Piece}
    (here : ∀ position place, List.Forall₂ Alike (ofPiece position piece) (ofPiece place other))
    (later : SaySame pieces others) : SaySame (piece :: pieces) (other :: others) :=
  fun position place => List.rel_append (here position place) (later _ _)

theorem append_left {pieces others : List Piece} (later : SaySame pieces others)
    (before : List Piece) : SaySame (before ++ pieces) (before ++ others) := by
  induction before with
  | nil => exact later
  | cons piece before ih =>
      refine .cons (fun position place => ?_) ih
      have single := refl [piece] position place
      rwa [ofPieces, ofPieces, ofPieces, ofPieces, List.append_nil, List.append_nil] at single

end SaySame

end Segment

open Segment (SaySame)

/-- Two pieces that say the same, in front of the same rest. -/
theorem Piece.alike_scan_source {piece other : Piece} {rest : List Char}
    (wellFormed : piece.WellFormed) (wellFormed_other : other.WellFormed)
    (ends : piece.EndsBefore rest) (ends_other : other.EndsBefore rest)
    (here : ∀ position place, List.Forall₂ Segment.Alike (Segment.ofPiece position piece)
      (Segment.ofPiece place other)) (position place : Nat) :
    Located.Alike SaySame (scan position (piece.source ++ rest))
      (scan place (other.source ++ rest)) := by
  rw [scan_source_append wellFormed ends, scan_source_append wellFormed_other ends_other]
  refine (alike_scan _ _ rest).map fun pieces others same => ?_
  rw [same]
  exact .cons here (.refl others)

namespace Interchangeable

variable {delimiter : Delimiter} {content other : List Char}
  (same : Interchangeable delimiter content other)

include same

/-- A span, or the quotation that it opens, and what follows. -/
theorem alike_scan_enclose (position place : Nat) (second : List Char) :
    Located.Alike SaySame
      (Piece.scan position (Piece.enclose delimiter content ++ second))
      (Piece.scan place (Piece.enclose delimiter other ++ second)) := by
  by_cases single : delimiter = .block → Quotation.ofTag? content = none
  · have wellFormed : (Piece.span delimiter content).WellFormed := ⟨same.closedBy, single⟩
    have wellFormed_other : (Piece.span delimiter other).WellFormed :=
      ⟨same.closedBy_other, by rwa [← same.ofTag?_eq]⟩
    exact Piece.alike_scan_source wellFormed wellFormed_other trivial trivial same.alike
      position place
  · obtain ⟨rfl, quoting⟩ := Classical.not_imp.1 single
    obtain ⟨kind, opens⟩ := Option.ne_none_iff_exists'.1 quoting
    have opens_other := same.ofTag?_eq ▸ opens
    cases split : kind.split? 0 second with
    | none =>
        rw [Piece.scan_enclose_of_unclosed same.closedBy opens split,
          Piece.scan_enclose_of_unclosed same.closedBy_other opens_other split]
        exact .error rfl
    | some parts =>
        obtain ⟨body, closing, rest⟩ := parts
        obtain ⟨rfl, whole⟩ := Quotation.split?_eq_some_iff.1 split
        have wellFormed : (Piece.quotation kind content body closing).WellFormed :=
          ⟨same.closedBy, opens, whole⟩
        have wellFormed_other : (Piece.quotation kind other body closing).WellFormed :=
          ⟨same.closedBy_other, opens_other, whole⟩
        have shows (position place : Nat) : List.Forall₂ Segment.Alike
            (Segment.ofPiece position (.quotation kind content body closing))
            (Segment.ofPiece place (.quotation kind other body closing)) := by
          cases kind with
          | comment => exact .nil
          | raw =>
              cases body with
              | nil => exact .nil
              | cons char body => exact .cons (.text _) .nil
        have quoted := @Piece.alike_scan_source _ _ rest wellFormed wellFormed_other trivial trivial
          shows position place
        simpa only [Piece.source, List.append_assoc] using quoted

/-- Behind a source that falls into segments, and that leaves no brace to the span. -/
theorem alike_compile {config : Config} {first : List Char} {segments : List Segment}
    (scanned : Segment.scan first = .ok segments) (unbraced : first.getLast? ≠ some '{')
    (second : List Char) :
    Located.Alike Eq
      (Node.compile config (first ++ (Piece.enclose delimiter content ++ second)))
      (Node.compile config (first ++ (Piece.enclose delimiter other ++ second))) := by
  obtain ⟨pieces, tiles, -⟩ := Segment.scan_eq_ok_iff.1 scanned
  have begins (inside : List Char) : Piece.TilesUpTo
      (first ++ (Piece.enclose delimiter inside ++ second)) pieces
        (Piece.enclose delimiter inside ++ second) := by
    refine (Piece.tilesUpTo_iff ?_).2 ⟨tiles, unbraced⟩
    rw [Piece.enclose, List.append_assoc, List.append_assoc, Delimiter.opens?_append,
      Option.isSome_some]
  have scans : Located.Alike (List.Forall₂ Segment.Alike)
      (Segment.scan (first ++ (Piece.enclose delimiter content ++ second)))
      (Segment.scan (first ++ (Piece.enclose delimiter other ++ second))) := by
    rw [Segment.scan, Segment.scan, (begins content).scan_eq, (begins other).scan_eq]
    exact ((same.alike_scan_enclose _ _ second).map fun _ _ later =>
      SaySame.append_left later pieces).map fun _ _ say => say 0 0
  refine (scans.mapError fun left right reason => ?_).bind fun _ _ alike =>
    Node.alike_ofSegments config alike
  rw [reason]

end Interchangeable

namespace Template

/-- A span between two sources. -/
def withSpan (first : String) (delimiter : Delimiter) (content : List Char) (second : String) :
    String :=
  first ++ String.ofList (Piece.enclose delimiter content) ++ second

/--
Insignificant blanks of a span do not matter, whatever follows it: a source
compiles to the same template with others in their place, or cannot be compiled
for the same reason.
-/
theorem compile_withSpan_respaced {config : Config} {first : String} {segments : List Segment}
    (scanned : Segment.scan first.toList = .ok segments)
    (unbraced : first.toList.getLast? ≠ some '{') {delimiter : Delimiter}
    {content other : List Char} (respaced : Respaced delimiter content other) (second : String) :
    (∃ template, compile config (withSpan first delimiter content second) = .ok template ∧
      compile config (withSpan first delimiter other second) = .ok template) ∨
    ∃ (problem : Problem) (position place : Nat),
      compile config (withSpan first delimiter content second) =
        .error (problem.toError (withSpan first delimiter content second).toList position) ∧
      compile config (withSpan first delimiter other second) =
        .error (problem.toError (withSpan first delimiter other second).toList place) := by
  have whole (inside : List Char) : (withSpan first delimiter inside second).toList =
      first.toList ++ (Piece.enclose delimiter inside ++ second.toList) := by
    simp [withSpan]
  have alike := @Interchangeable.alike_compile _ _ _ respaced.interchangeable config _ _ scanned
    unbraced second.toList
  rw [← whole content, ← whole other] at alike
  unfold compile
  generalize Node.compile config _ = result at alike ⊢
  generalize Node.compile config _ = another at alike ⊢
  cases alike with
  | ok same => exact .inl ⟨_, rfl, by rw [same]⟩
  | error same => exact .inr ⟨_, _, _, rfl, by rw [same]⟩

/-- An assignment with a wide blank behind its keyword, and with a line break there. -/
theorem compile_withSpan_respaced_assign :
    let content := "assign\u2003x = 1 ".toList
    let other := "\nassign \nx = 1".toList
    let source := withSpan "é{{ y }}" .block content "{{ x }}"
    let another := withSpan "é{{ y }}" .block other "{{ x }}"
    (∃ segments, Segment.scan "é{{ y }}".toList = .ok segments) ∧
      Respaced .block content other ∧
      ((∃ template, compile .empty source = .ok template ∧
        compile .empty another = .ok template) ∨
      ∃ (problem : Problem) (position place : Nat),
        compile .empty source = .error (problem.toError source.toList position) ∧
        compile .empty another = .error (problem.toError another.toList place)) := by
  intro content other source another
  have scanned : Segment.scan "é{{ y }}".toList =
      .ok [.text ['é'], .output ['y'] 5] := by decide +kernel
  have respaced : Respaced .block content other :=
    @Respaced.between "assign".toList ['\u2003'] [' ', '\n'] "x = 1".toList content other
      ⟨by decide, by decide, nofun⟩ (by simp [Text.isBlank]) (by simp [Text.isBlank])
      (by decide) (by simp [Text.isBlank]) (by decide)
      ⟨[], [' '], by decide, by simp, by simp [Text.isBlank]⟩
      ⟨['\n'], [], by decide, by simp [Text.isBlank], by simp⟩
  exact ⟨⟨_, scanned⟩, respaced, compile_withSpan_respaced scanned (by decide) respaced _⟩

end Template

end Stencil
