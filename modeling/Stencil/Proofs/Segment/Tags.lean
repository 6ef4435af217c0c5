import Stencil.Proofs.Piece.Stop
import Stencil.Proofs.Segment.Decomposition
import Stencil.Proofs.Syntax.Failure

/-!
# The tags of a source

A source has tags also when it does not fall into pieces to its end: a tag is
found behind the pieces at its beginning.  Segments are the insides of tags, and
a quotation that is never closed is reported inside the tag that opens it.
-/

namespace Stencil

namespace Piece

/-- A tag stands in a source, behind pieces: its inside goes up to the first closing delimiter. -/
structure HasTag (source before : List Char) (delimiter : Delimiter) (content : List Char) :
    Prop where
  reached : ∃ pieces after, TilesUpTo source pieces (enclose delimiter content ++ after) ∧
    pieces.flatMap Piece.source = before
  closed : Text.ClosedBy delimiter.closing content

variable {source rest before content : List Char} {delimiter : Delimiter} {piece : Piece}

/-- A tag that a source begins with. -/
theorem HasTag.head (closed : Text.ClosedBy delimiter.closing content) (after : List Char) :
    HasTag (enclose delimiter content ++ after) [] delimiter content :=
  ⟨⟨[], after, .nil, rfl⟩, closed⟩

/-- A tag behind the first piece of a source. -/
theorem HasTag.behind (tag : HasTag rest before delimiter content)
    (wellFormed : piece.WellFormed) (ends : piece.EndsBefore rest) :
    HasTag (piece.source ++ rest) (piece.source ++ before) delimiter content := by
  obtain ⟨⟨pieces, after, tiles, rfl⟩, closed⟩ := tag
  exact ⟨⟨piece :: pieces, after, .cons wellFormed ends tiles, rfl⟩, closed⟩

theorem HasTag.exists_append (tag : HasTag source before delimiter content) :
    ∃ after, source = before ++ enclose delimiter content ++ after := by
  obtain ⟨⟨pieces, after, tiles, rfl⟩, -⟩ := tag
  exact ⟨after, by rw [List.append_assoc, ← tiles.eq_append]⟩

/--
A byte position stands in a tag of a source: in its inside without the blanks
around it, between two characters or at one of its ends.
-/
def InTag (source : List Char) (position : Nat) : Prop :=
  ∃ before delimiter content first last, HasTag source before delimiter content ∧
    Text.trim content = first ++ last ∧
    position = Text.width (before ++ delimiter.opening ++ Text.leadingBlanks content ++ first)

/-- A position in a tag stands between two characters of the source. -/
theorem InTag.exists_append {position : Nat} (inside : InTag source position) :
    ∃ before after, source = before ++ after ∧ Text.width before = position := by
  obtain ⟨before, delimiter, content, first, last, tag, trimmed, rfl⟩ := inside
  obtain ⟨after, rfl⟩ := tag.exists_append
  obtain ⟨trailing, whole, -⟩ := Text.exists_trim_append content
  refine ⟨before ++ delimiter.opening ++ Text.leadingBlanks content ++ first,
    last ++ trailing ++ delimiter.closing ++ after, ?_, rfl⟩
  rw [trimmed] at whole
  conv_lhs => rw [whole]
  simp only [enclose, List.append_assoc]

/-- What the inside of a tag covers stands in the tag. -/
theorem HasTag.inTag_of_covers {position : Nat} (tag : HasTag source before delimiter content)
    (covers : TagInside.Covers
      ⟨Text.trim content, insidePosition (Text.width before) content⟩ position) :
    InTag source position := by
  obtain ⟨first, last, trimmed, same⟩ := covers
  refine ⟨before, delimiter, content, first, last, tag, trimmed, ?_⟩
  simp only [same, Segment.insidePosition_width before delimiter, Text.width_append]

/-! ## Sources that cannot be scanned -/

/-- A quotation that nothing closes is reported where the inside of its tag begins. -/
theorem exists_hasTag_of_scan {kind : Quotation} {position : Nat}
    (failed : scan 0 source = .error ⟨.unclosed kind, position⟩) :
    ∃ before content, HasTag source before .block content ∧
      position = insidePosition (Text.width before) content := by
  obtain ⟨pieces, remaining, tiles, stops⟩ := scan_eq_error_iff.1 failed
  rw [Nat.zero_add] at stops
  cases stops with
  | @unclosed _ content rest closed opens missing =>
      exact ⟨_, content, ⟨⟨pieces, rest, tiles, rfl⟩, closed⟩, rfl⟩

end Piece

namespace Segment

/-- The byte positions in the inside of a segment. -/
def Covers (segment : Segment) (position : Nat) : Prop :=
  match segment with
  | .text _ => False
  | .output inner start | .block inner start => TagInside.Covers ⟨inner, start⟩ position

/-- What a segment covers is covered by the tag whose inside it is. -/
theorem exists_hasTag_of_tiles (before : List Char) {source : List Char} {pieces : List Piece}
    (tiles : Piece.Tiles source pieces) {segment : Segment}
    (member : segment ∈ ofPieces (Text.width before) pieces) {position : Nat}
    (covers : segment.Covers position) :
    ∃ between delimiter content, Piece.HasTag source between delimiter content ∧
      TagInside.Covers ⟨Text.trim content,
        Piece.insidePosition (Text.width (before ++ between)) content⟩ position := by
  induction tiles generalizing before with
  | nil => simp [ofPieces] at member
  | @cons piece rest pieces wellFormed ends tiles ih =>
      rw [ofPieces, List.mem_append, ← Text.width_append] at member
      rcases member with here | later
      · cases piece with
        | text content =>
            obtain rfl := List.mem_singleton.1 here
            exact covers.elim
        | span delimiter content =>
            refine ⟨[], delimiter, content, .head wellFormed.1 rest, ?_⟩
            rw [List.append_nil]
            cases delimiter <;> obtain rfl := List.mem_singleton.1 here <;> exact covers
        | quotation =>
            obtain ⟨text, rfl⟩ := exists_text_of_mem_ofPiece here
            exact covers.elim
      · obtain ⟨between, delimiter, content, tag, inside⟩ := ih _ later
        exact ⟨piece.source ++ between, delimiter, content, tag.behind wellFormed ends,
          by rwa [← List.append_assoc]⟩

/-- The byte positions in the segments of a source are in its tags. -/
theorem inTag_of_scan {source : List Char} {segments : List Segment}
    (scanned : scan source = .ok segments) {segment : Segment} (member : segment ∈ segments)
    {position : Nat} (covers : segment.Covers position) : Piece.InTag source position := by
  obtain ⟨pieces, tiles, rfl⟩ := scan_eq_ok_iff.1 scanned
  obtain ⟨before, delimiter, content, tag, inside⟩ :=
    exists_hasTag_of_tiles [] tiles member covers
  exact tag.inTag_of_covers inside

/-- A quotation that nothing closes is reported in the tag that opens it. -/
theorem inTag_of_scan_unclosed {source : List Char} {kind : Quotation} {position : Nat}
    (failed : scan source = .error ⟨.unclosed kind, position⟩) : Piece.InTag source position := by
  rw [scan, Except.map_eq_error_iff] at failed
  obtain ⟨before, content, tag, rfl⟩ := Piece.exists_hasTag_of_scan failed
  exact tag.inTag_of_covers TagInside.covers_position

/-! ## The order of tags -/

/-- Where the inside of an output or a tag begins. -/
def position? : Segment → Option Nat
  | .text _ => none
  | .output _ position | .block _ position => some position

/-- What a piece contributes stands in the piece. -/
theorem position_of_mem_ofPiece {start position : Nat} {piece : Piece} {segment : Segment}
    (member : segment ∈ ofPiece start piece) (stands : segment.position? = some position) :
    start ≤ position ∧ position < start + Text.width piece.source := by
  cases piece with
  | text content =>
      obtain rfl := List.mem_singleton.1 member
      cases stands
  | span delimiter content =>
      obtain rfl : Piece.insidePosition start content = position := by
        cases delimiter <;> obtain rfl := List.mem_singleton.1 member <;>
          exact Option.some.inj stands
      have around : Text.width (Piece.span delimiter content).source = Text.width content + 4 := by
        rw [Piece.source, Piece.enclose, Text.width_append, Text.width_append,
          delimiter.width_opening, delimiter.width_closing]
        omega
      rw [around, Piece.insidePosition]
      omega
  | quotation =>
      obtain ⟨text, rfl⟩ := exists_text_of_mem_ofPiece member
      cases stands

theorem le_position_of_mem_ofPieces {start position : Nat} {pieces : List Piece}
    {segment : Segment} (member : segment ∈ ofPieces start pieces)
    (stands : segment.position? = some position) : start ≤ position := by
  induction pieces generalizing start with
  | nil => simp [ofPieces] at member
  | cons piece pieces ih =>
      rw [ofPieces, List.mem_append] at member
      rcases member with here | later
      · exact (position_of_mem_ofPiece here stands).1
      · exact (Nat.le_add_right _ _).trans (ih later)

/-- Outputs and tags stand one behind the other. -/
theorem pairwise_position_ofPieces (start : Nat) (pieces : List Piece) :
    ((ofPieces start pieces).filterMap position?).Pairwise (· < ·) := by
  induction pieces generalizing start with
  | nil => exact .nil
  | cons piece pieces ih =>
      rw [ofPieces, List.filterMap_append, List.pairwise_append]
      refine ⟨?_, ih _, fun first here second later => ?_⟩
      · -- A piece contributes one segment at most.
        cases piece with
        | text content => exact .nil
        | span delimiter content => cases delimiter <;> exact List.pairwise_singleton _ _
        | quotation kind content body closing =>
            cases kind with
            | raw => cases body <;> exact .nil
            | comment => exact .nil
      · obtain ⟨segment, member, stands⟩ := List.mem_filterMap.1 here
        obtain ⟨other, behind, standsBehind⟩ := List.mem_filterMap.1 later
        have ends := (position_of_mem_ofPiece member stands).2
        exact ends.trans_le (le_position_of_mem_ofPieces behind standsBehind)

theorem pairwise_position_of_scan {source : List Char} {segments : List Segment}
    (scanned : scan source = .ok segments) :
    (segments.filterMap position?).Pairwise (· < ·) := by
  obtain ⟨pieces, -, rfl⟩ := scan_eq_ok_iff.1 scanned
  exact pairwise_position_ofPieces 0 pieces

end Segment

end Stencil
