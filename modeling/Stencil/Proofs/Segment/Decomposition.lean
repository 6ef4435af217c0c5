import Mathlib.Data.List.Chain
import Stencil.Proofs.Piece.Tiling
import Stencil.Proofs.Text.Slice
import Stencil.Segment

/-!
# What segments show of a source

The segments of a source are what its pieces show: text runs and raw bodies as
they stand, and the insides of spans without the blanks around them, each at
the byte position where it stands in the source.
-/

namespace Stencil

namespace Delimiter

theorem width_opening (delimiter : Delimiter) : Text.width delimiter.opening = 2 := by
  cases delimiter <;> rfl

theorem width_closing (delimiter : Delimiter) : Text.width delimiter.closing = 2 := by
  cases delimiter <;> rfl

end Delimiter

namespace Piece

/-- Whether a piece is a text run. -/
def isText : Piece → Bool
  | .text _ => true
  | _ => false

/-- What a piece shows of itself, if anything, and the delimiter that it stands in. -/
def shown? : Piece → Option (Option Delimiter × List Char)
  | .text content => some (none, content)
  | .span delimiter content => some (some delimiter, Text.trim content)
  | .quotation .raw _ body _ => if body = [] then none else some (none, body)
  | .quotation .comment _ _ _ => none

/-- No text run is followed by another one. -/
theorem Tiles.isChain {source : List Char} {pieces : List Piece} (tiles : Tiles source pieces) :
    pieces.IsChain fun first second => ¬ (first.isText ∧ second.isText) := by
  induction tiles with
  | nil => exact .nil
  | @cons piece rest pieces wellFormed ends tiles ih =>
      cases tiles with
      | nil => exact .singleton piece
      | @cons next rest pieces nextFormed nextEnds tiles =>
          refine .cons_cons ?_ ih
          rintro ⟨pieceText, nextText⟩
          cases piece with
          | span => simp [isText] at pieceText
          | quotation => simp [isText] at pieceText
          | text content =>
              cases next with
              | span => simp [isText] at nextText
              | quotation => simp [isText] at nextText
              | text following =>
                  obtain ⟨nonempty, plain⟩ := nextFormed
                  cases following with
                  | nil => exact nonempty rfl
                  | cons char following =>
                      have closed := opens?_append_of_plain plain nextEnds
                      rcases ends with finished | ⟨opens, -⟩
                      · simp [Piece.source] at finished
                      · simp [Piece.source, closed] at opens

end Piece

namespace Segment

/-- What a segment shows, and the delimiter that it stands in. -/
def shown : Segment → Option Delimiter × List Char
  | .text content => (none, content)
  | .output inner _ => (some .output, inner)
  | .block inner _ => (some .block, inner)

/-- An inside stands in a source at a byte position, between a delimiter and its closing. -/
structure StandsAt (source : List Char) (delimiter : Delimiter) (inner : List Char)
    (position : Nat) : Prop where
  /-- The bytes of the source from the position on are the inside. -/
  slice : Text.slice? source position (position + Text.width inner) = some inner
  /-- Only blanks stand between the inside and the delimiters. -/
  enclosed : ∃ before leading trailing after,
    source = before ++ Piece.enclose delimiter (leading ++ inner ++ trailing) ++ after ∧
      (∀ char ∈ leading ++ trailing, Text.isBlank char = true) ∧
        position = Text.width (before ++ delimiter.opening ++ leading)

/-- A segment stands in a source where it says. -/
def Placed (source : List Char) : Segment → Prop
  | .text _ => True
  | .output inner position => StandsAt source .output inner position
  | .block inner position => StandsAt source .block inner position

/-- A quotation contributes a text if it contributes anything. -/
theorem exists_text_of_mem_ofPiece {position : Nat} {kind : Quotation}
    {content body closing : List Char} {segment : Segment}
    (member : segment ∈ ofPiece position (.quotation kind content body closing)) :
    ∃ text, segment = .text text := by
  cases kind with
  | comment => cases member
  | raw =>
      rw [ofPiece] at member
      split at member
      · cases member
      · exact ⟨body, List.mem_singleton.1 member⟩

theorem shown_ofPiece (position : Nat) (piece : Piece) :
    (ofPiece position piece).map shown = piece.shown?.toList := by
  cases piece with
  | text => rfl
  | span delimiter => cases delimiter <;> rfl
  | quotation kind content body closing =>
      cases kind with
      | comment => rfl
      | raw => cases body <;> rfl

theorem shown_ofPieces (position : Nat) (pieces : List Piece) :
    (ofPieces position pieces).map shown = pieces.filterMap Piece.shown? := by
  induction pieces generalizing position with
  | nil => rfl
  | cons piece pieces ih =>
      rw [ofPieces, List.map_append, shown_ofPiece, ih]
      cases shows : piece.shown? <;> simp [shows]

/-- The inside of a span stands behind the blanks that follow the delimiter. -/
theorem insidePosition_width (before : List Char) (delimiter : Delimiter)
    (content : List Char) :
    Piece.insidePosition (Text.width before) content =
      Text.width (before ++ delimiter.opening ++ Text.leadingBlanks content) := by
  have split := congrArg Text.width (Text.leadingBlanks_append_trimStart content)
  rw [Text.width_append] at split
  rw [Piece.insidePosition, Text.width_append, Text.width_append, delimiter.width_opening, ← split]
  omega

theorem standsAt_span (before after : List Char) (delimiter : Delimiter) (content : List Char) :
    StandsAt (before ++ Piece.enclose delimiter content ++ after) delimiter (Text.trim content)
      (Piece.insidePosition (Text.width before) content) := by
  obtain ⟨trailing, whole, blank⟩ := Text.exists_trim_append content
  have position := insidePosition_width before delimiter content
  constructor
  · have source : before ++ Piece.enclose delimiter content ++ after =
        (before ++ delimiter.opening ++ Text.leadingBlanks content) ++ Text.trim content ++
          (trailing ++ delimiter.closing ++ after) := by
      conv_lhs => rw [whole]
      simp only [Piece.enclose, List.append_assoc]
    rw [position, source, Text.slice?_append]
  · refine ⟨before, Text.leadingBlanks content, trailing, after, by rw [← whole], ?_, position⟩
    intro char member
    rcases List.mem_append.1 member with leads | trails
    · exact Text.isBlank_of_mem_leadingBlanks leads
    · exact blank char trails

theorem placed_ofPiece (before after : List Char) (piece : Piece) :
    ∀ segment ∈ ofPiece (Text.width before) piece,
      segment.Placed (before ++ piece.source ++ after) := by
  intro segment member
  cases piece with
  | text content =>
      obtain rfl := List.mem_singleton.1 member
      trivial
  | span delimiter content =>
      cases delimiter <;> obtain rfl := List.mem_singleton.1 member <;>
        exact standsAt_span before after _ content
  | quotation =>
      obtain ⟨text, rfl⟩ := exists_text_of_mem_ofPiece member
      trivial

theorem placed_ofPieces (before : List Char) (pieces : List Piece) :
    ∀ segment ∈ ofPieces (Text.width before) pieces,
      segment.Placed (before ++ pieces.flatMap Piece.source) := by
  induction pieces generalizing before with
  | nil => simp [ofPieces]
  | cons piece pieces ih =>
      intro segment member
      rw [List.flatMap_cons, ← List.append_assoc]
      rw [ofPieces, List.mem_append, ← Text.width_append] at member
      rcases member with here | later
      · exact placed_ofPiece before _ piece segment here
      · exact ih (before ++ piece.source) segment later

theorem scan_eq_ok_iff {source : List Char} {segments : List Segment} :
    scan source = .ok segments ↔
      ∃ pieces, Piece.Tiles source pieces ∧ ofPieces 0 pieces = segments := by
  rw [scan, Except.map_eq_ok_iff]
  simp only [Piece.scan_eq_ok_iff]

/-- How the pieces of a source account for its segments. -/
structure Decomposes (source : List Char) (segments : List Segment) (pieces : List Piece) :
    Prop where
  /-- The pieces stand one after the other and leave nothing out. -/
  joined : source = pieces.flatMap Piece.source
  /-- Nothing opens in a text run, and spans end at the first closing delimiter. -/
  wellFormed : ∀ piece ∈ pieces, piece.WellFormed
  /-- No text run is followed by another one. -/
  separated : pieces.IsChain fun first second => ¬ (first.isText ∧ second.isText)
  /-- The segments are what the pieces show, in order. -/
  shown_eq : segments.map shown = pieces.filterMap Piece.shown?
  placed : ∀ segment ∈ segments, segment.Placed source

/-- A source that can be scanned is its pieces, and its segments are what these show. -/
theorem exists_decomposes_of_scan {source : List Char} {segments : List Segment}
    (scanned : scan source = .ok segments) :
    ∃ pieces, Decomposes source segments pieces := by
  obtain ⟨pieces, tiles, rfl⟩ := scan_eq_ok_iff.1 scanned
  have joined := tiles.eq_flatMap
  refine ⟨pieces, joined, tiles.wellFormed, tiles.isChain, shown_ofPieces 0 pieces, ?_⟩
  rw [joined]
  exact placed_ofPieces [] pieces

/-- Wide characters, an inside of blanks only, quotations, and a brace before a delimiter. -/
theorem exists_decomposes_of_scan_quotations :
    ∃ pieces, Decomposes
      "é{{ x }}{%  %}{% raw %}\x7b\x7b{% endraw %}{% comment %}\x7b%{% endcomment %}\x7b{{a}}".toList
      [.text ['é'], .output ['x'] 5, .block [] 13, .text ['{', '{'], .output ['{', 'a'] 71]
      pieces :=
  exists_decomposes_of_scan (by decide +kernel)

end Segment

end Stencil
