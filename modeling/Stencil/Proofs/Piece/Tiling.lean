import Stencil.Proofs.Piece.Scanning

/-!
# Tilings

A source falls into pieces in one way only: the pieces are well formed one by
one, and a text run is neither followed by another one nor ends in a brace that
would begin the next piece earlier.  Scanning finds this tiling, and fails for
sources without one.
-/

namespace Stencil

namespace Piece

variable {position : Nat}

/-- What a piece must be like, whatever stands around it. -/
def WellFormed : Piece → Prop
  | .text content => content ≠ [] ∧ Plain content
  | .span delimiter content =>
      Text.ClosedBy delimiter.closing content ∧
        (delimiter = .block → Quotation.ofTag? content = none)
  | .quotation kind content body closing =>
      Text.ClosedBy Delimiter.block.closing content ∧ Quotation.ofTag? content = some kind ∧
        kind.Whole 0 body closing

theorem WellFormed.source_ne_nil {piece : Piece} (wellFormed : piece.WellFormed) :
    piece.source ≠ [] := by
  cases piece with
  | text content => exact wellFormed.1
  | span delimiter content => cases delimiter <;> simp [source, enclose, Delimiter.opening]
  | quotation kind content body closing => simp [source, enclose, Delimiter.opening]

/-- What may stand behind a piece. -/
def EndsBefore : Piece → List Char → Prop
  | .text content, rest => TextEnd content rest
  | _, _ => True

/-- A source falls into pieces. -/
inductive Tiles : List Char → List Piece → Prop
  | nil : Tiles [] []
  | cons {piece : Piece} {rest : List Char} {pieces : List Piece}
      (wellFormed : piece.WellFormed) (ends : piece.EndsBefore rest) (tiles : Tiles rest pieces) :
      Tiles (piece.source ++ rest) (piece :: pieces)

theorem Tiles.eq_flatMap {source : List Char} {pieces : List Piece} (tiles : Tiles source pieces) :
    source = pieces.flatMap Piece.source := by
  induction tiles with
  | nil => rfl
  | cons _ _ _ ih => rw [List.flatMap_cons, ← ih]

theorem Tiles.wellFormed {source : List Char} {pieces : List Piece}
    (tiles : Tiles source pieces) : ∀ piece ∈ pieces, piece.WellFormed := by
  induction tiles with
  | nil => simp
  | cons wellFormed _ _ ih =>
      intro piece member
      rcases List.mem_cons.1 member with rfl | later
      · exact wellFormed
      · exact ih piece later

/--
A source begins with a piece, unless it is empty or begins with something that
nothing closes.
-/
theorem beginning_cases (source : List Char) :
    source = [] ∨
      (∃ (delimiter : Delimiter) (inside : List Char), source = delimiter.opening ++ inside ∧
        Text.cut delimiter.closing inside = none) ∨
      (∃ (kind : Quotation) (content rest : List Char), source = enclose .block content ++ rest ∧
        Text.ClosedBy Delimiter.block.closing content ∧ Quotation.ofTag? content = some kind ∧
        kind.split? 0 rest = none) ∨
      ∃ (piece : Piece) (rest : List Char), source = piece.source ++ rest ∧ piece.WellFormed ∧
        piece.EndsBefore rest := by
  cases opened : Delimiter.opens? source with
  | none =>
      cases source with
      | nil => exact .inl rfl
      | cons char chars =>
          obtain ⟨plain, ends⟩ := spanText_spec (char :: chars)
          refine .inr (.inr (.inr ⟨.text _, _, (spanText_append (char :: chars)).symm, ⟨?_, plain⟩,
            ends⟩))
          simp [spanText, opened]
  | some pair =>
      obtain ⟨delimiter, inside⟩ := pair
      obtain rfl := Delimiter.eq_append_of_opens? opened
      cases cutAt : Text.cut delimiter.closing inside with
      | none => exact .inr (.inl ⟨delimiter, inside, rfl, cutAt⟩)
      | some pair =>
          obtain ⟨content, rest⟩ := pair
          obtain ⟨rfl, closed⟩ := Text.cut_eq_some_iff.1 cutAt
          by_cases single : delimiter = .block → Quotation.ofTag? content = none
          · refine .inr (.inr (.inr ⟨.span delimiter content, rest, ?_, ⟨closed, single⟩, trivial⟩))
            simp [source, enclose]
          · obtain ⟨rfl, quoting⟩ := Classical.not_imp.1 single
            obtain ⟨kind, opens⟩ := Option.ne_none_iff_exists'.1 quoting
            cases split : kind.split? 0 rest with
            | none =>
                exact .inr (.inr (.inl ⟨kind, content, rest, by simp [enclose], closed, opens, split⟩))
            | some parts =>
                obtain ⟨body, closing, behind⟩ := parts
                obtain ⟨rfl, whole⟩ := Quotation.split?_eq_some_iff.1 split
                refine .inr (.inr (.inr ⟨.quotation kind content body closing, behind, ?_,
                  ⟨closed, opens, whole⟩, trivial⟩))
                simp [source, enclose]

/-- A well-formed piece is found where it stands, before any rest that may follow it. -/
theorem scan_source_append {piece : Piece} {rest : List Char} (wellFormed : piece.WellFormed)
    (ends : piece.EndsBefore rest) :
    scan position (piece.source ++ rest) =
      (scan (position + Text.width piece.source) rest).map (piece :: ·) := by
  cases piece with
  | text content =>
      obtain ⟨nonempty, plain⟩ := wellFormed
      cases content with
      | nil => exact absurd rfl nonempty
      | cons char content =>
          have run := spanText_append_of_plain plain ends
          have closed := opens?_append_of_plain plain ends
          simp only [source, List.cons_append] at run ⊢
          rw [scan_text closed, run]
  | span delimiter content =>
      obtain ⟨closed, single⟩ := wellFormed
      have found := closed.cut rest
      simp only [source, enclose, List.append_assoc] at found ⊢
      rw [scan_span found single]
      simp only [enclose, List.append_assoc]
  | quotation kind content body closing =>
      obtain ⟨closed, opens, whole⟩ := wellFormed
      have found := closed.cut (body ++ enclose .block closing ++ rest)
      have split := Quotation.split?_of_whole whole rest
      simp only [source, enclose, List.append_assoc] at found split ⊢
      rw [scan_quotation found opens split]
      simp only [source, enclose, List.append_assoc]

/-- A quotation that nothing closes, where its tag stands. -/
theorem scan_enclose_of_unclosed {kind : Quotation} {content rest : List Char}
    (closed : Text.ClosedBy Delimiter.block.closing content)
    (opens : Quotation.ofTag? content = some kind) (missing : kind.split? 0 rest = none) :
    scan position (enclose .block content ++ rest) =
      .error ⟨.unclosed kind, insidePosition position content⟩ := by
  have found := closed.cut rest
  simp only [enclose, List.append_assoc] at found ⊢
  exact scan_unclosed found opens missing

/-- Scanning a source that has pieces finds the first of them. -/
theorem scan_eq_ok_cases {source : List Char} {pieces : List Piece}
    (scanned : scan position source = .ok pieces) :
    (source = [] ∧ pieces = []) ∨
      ∃ piece rest others, source = piece.source ++ rest ∧ pieces = piece :: others ∧
        piece.WellFormed ∧ piece.EndsBefore rest ∧
        scan (position + Text.width piece.source) rest = .ok others := by
  rcases beginning_cases source with
    rfl | ⟨delimiter, inside, rfl, missing⟩ | ⟨kind, content, rest, rfl, closed, opens, missing⟩ |
      ⟨piece, rest, rfl, wellFormed, ends⟩
  · exact .inl ⟨rfl, by simpa using scanned.symm⟩
  · rw [scan_unterminated missing] at scanned
    cases scanned
  · rw [scan_enclose_of_unclosed closed opens missing] at scanned
    cases scanned
  · rw [scan_source_append wellFormed ends, Except.map_eq_ok_iff] at scanned
    obtain ⟨others, later, rfl⟩ := scanned
    exact .inr ⟨piece, rest, others, rfl, rfl, wellFormed, ends, later⟩

theorem tiles_of_scan {source : List Char} {pieces : List Piece}
    (scanned : scan position source = .ok pieces) : Tiles source pieces := by
  induction pieces generalizing position source with
  | nil =>
      rcases scan_eq_ok_cases scanned with ⟨rfl, -⟩ | ⟨_, _, _, -, impossible, -⟩
      · exact .nil
      · simp at impossible
  | cons piece pieces ih =>
      rcases scan_eq_ok_cases scanned with
        ⟨-, impossible⟩ | ⟨first, rest, others, rfl, same, wellFormed, ends, later⟩
      · simp at impossible
      · obtain ⟨rfl, rfl⟩ := List.cons.inj same
        exact .cons wellFormed ends (ih later)

theorem scan_of_tiles {source : List Char} {pieces : List Piece} (tiles : Tiles source pieces) :
    scan position source = .ok pieces := by
  induction tiles generalizing position with
  | nil => exact scan_nil
  | cons wellFormed ends _ ih =>
      rw [scan_source_append wellFormed ends, ih]
      rfl

/-- Scanning finds the tiling of a source, wherever the source starts. -/
theorem scan_eq_ok_iff {source : List Char} {pieces : List Piece} :
    scan position source = .ok pieces ↔ Tiles source pieces :=
  ⟨tiles_of_scan, scan_of_tiles⟩

/-- A source falls into pieces in one way only. -/
theorem Tiles.unique {source : List Char} {pieces others : List Piece}
    (tiles : Tiles source pieces) (same : Tiles source others) : pieces = others :=
  Except.ok.inj ((@scan_of_tiles 0 _ _ tiles).symm.trans (scan_of_tiles same))

end Piece

end Stencil
