import Stencil.Proofs.Piece.Concatenation
import Stencil.Proofs.Segment.Decomposition

/-!
# Segments of concatenated sources

Where a source starts shows only in the byte positions of its segments.  Between
two sources a piece that is no text run keeps their segments apart.
-/

namespace Stencil

namespace Piece

/-- Text runs are only joined with text runs. -/
theorem join_cons_of_not_isText {piece : Piece} (solid : ¬ piece.isText)
    (pieces others : List Piece) :
    join pieces (piece :: others) = pieces ++ piece :: others := by
  rcases join_cases pieces (piece :: others) with plain | ⟨_, _, _, _, -, begins, -⟩
  · exact plain
  · obtain ⟨rfl, -⟩ := List.cons.inj begins
    exact absurd rfl solid

/-- A piece that is no text run between two sources. -/
theorem Tiles.between {first second : List Char} {pieces others : List Piece} {piece : Piece}
    (tiles : Tiles first pieces) (following : Tiles second others)
    (wellFormed : piece.WellFormed) (solid : ¬ piece.isText)
    (unbraced : first.getLast? ≠ some '{') :
    Tiles (first ++ (piece.source ++ second)) (pieces ++ piece :: others) := by
  have ends : piece.EndsBefore second := by
    cases piece with
    | text content => exact absurd rfl solid
    | span delimiter content => trivial
    | quotation kind content body closing => trivial
  rw [← join_cons_of_not_isText solid]
  exact tiles.append (.cons wellFormed ends following) fun brace => absurd brace unbraced

end Piece

namespace Segment

/-- The segment where it stands in a source with a number of bytes in front. -/
def shift (offset : Nat) : Segment → Segment
  | .text content => .text content
  | .output inner position => .output inner (offset + position)
  | .block inner position => .block inner (offset + position)

@[simp]
theorem shown_shift (offset : Nat) (segment : Segment) :
    (segment.shift offset).shown = segment.shown := by
  cases segment <;> rfl

theorem insidePosition_add (offset position : Nat) (content : List Char) :
    Piece.insidePosition (offset + position) content =
      offset + Piece.insidePosition position content := by
  simp only [Piece.insidePosition, Nat.add_assoc]

theorem ofPiece_add (offset position : Nat) (piece : Piece) :
    ofPiece (offset + position) piece = (ofPiece position piece).map (shift offset) := by
  cases piece with
  | text content => rfl
  | span delimiter content =>
      cases delimiter <;> simp only [ofPiece, insidePosition_add, List.map_singleton, shift]
  | quotation kind content body closing =>
      cases kind with
      | comment => rfl
      | raw => cases body <;> rfl

theorem ofPieces_add (offset position : Nat) (pieces : List Piece) :
    ofPieces (offset + position) pieces = (ofPieces position pieces).map (shift offset) := by
  induction pieces generalizing position with
  | nil => rfl
  | cons piece pieces ih =>
      rw [ofPieces, ofPieces, List.map_append, ofPiece_add, Nat.add_assoc, ih]

theorem ofPieces_append (position : Nat) (first second : List Piece) :
    ofPieces position (first ++ second) = ofPieces position first ++
      ofPieces (position + Text.width (first.flatMap Piece.source)) second := by
  induction first generalizing position with
  | nil => rfl
  | cons piece pieces ih =>
      rw [List.cons_append, ofPieces, ofPieces, ih, List.flatMap_cons, Text.width_append,
        Nat.add_assoc, List.append_assoc]

/-- The segments of a source with one more piece behind it. -/
theorem scan_append_piece {source : List Char} {segments : List Segment} {piece : Piece}
    (scanned : scan source = .ok segments) (wellFormed : piece.WellFormed)
    (solid : ¬ piece.isText) (unbraced : source.getLast? ≠ some '{') :
    scan (source ++ piece.source) = .ok (segments ++ ofPiece (Text.width source) piece) := by
  obtain ⟨pieces, tiles, rfl⟩ := scan_eq_ok_iff.1 scanned
  have joined := tiles.between .nil wellFormed solid unbraced
  rw [List.append_nil] at joined
  refine scan_eq_ok_iff.2 ⟨_, joined, ?_⟩
  rw [ofPieces_append, ← tiles.eq_flatMap, Nat.zero_add, ofPieces, ofPieces, List.append_nil]

/-- The segments of two sources, with a piece that shows nothing between them. -/
theorem scan_between {first second : List Char} {segments others : List Segment} {piece : Piece}
    (scanned : scan first = .ok segments) (following : scan second = .ok others)
    (wellFormed : piece.WellFormed) (silent : piece.shown? = none)
    (unbraced : first.getLast? ≠ some '{') :
    scan (first ++ piece.source ++ second) =
      .ok (segments ++ others.map (shift (Text.width (first ++ piece.source)))) := by
  obtain ⟨pieces, tiles, rfl⟩ := scan_eq_ok_iff.1 scanned
  obtain ⟨behind, tilesBehind, rfl⟩ := scan_eq_ok_iff.1 following
  have solid : ¬ piece.isText := by
    cases piece with
    | text content => cases silent
    | span delimiter content => simp [Piece.isText]
    | quotation kind content body closing => simp [Piece.isText]
  have joined := tiles.between tilesBehind wellFormed solid unbraced
  rw [← List.append_assoc] at joined
  refine scan_eq_ok_iff.2 ⟨_, joined, ?_⟩
  have nothing (position : Nat) : ofPiece position piece = [] := by
    have shows := shown_ofPiece position piece
    rw [silent] at shows
    exact List.map_eq_nil_iff.1 shows
  rw [ofPieces_append, ofPieces, nothing, List.nil_append, ← tiles.eq_flatMap, Nat.zero_add,
    ← Text.width_append, ← ofPieces_add, Nat.add_zero]

end Segment

end Stencil
