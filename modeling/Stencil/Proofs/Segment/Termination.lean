import Stencil.Proofs.Piece.Stop
import Stencil.Proofs.Segment.Decomposition

/-!
# What nothing closes

A source does not fall into segments just when it goes, behind a source that
does, with a delimiter or with the tag of a quotation that nothing closes.  So
what is reported stands outside of all quotations, and everything in front of it
is closed.
-/

namespace Stencil

namespace Segment

/--
A source goes on with `rest` behind a source that falls into segments by itself,
and that leaves no brace to what follows.
-/
structure Reaches (source before rest : List Char) : Prop where
  source_eq : source = before ++ rest
  scans : ∃ segments, scan before = .ok segments
  unbraced : before.getLast? ≠ some '{'

/-- A delimiter that a source reaches at a byte position and that nothing behind it closes. -/
def UnterminatedAt (source : List Char) (delimiter : Delimiter) (position : Nat) : Prop :=
  ∃ before inside, Reaches source before (delimiter.opening ++ inside) ∧
    Text.width before = position ∧ ¬ delimiter.closing <:+: inside

/--
The tag of a quotation that a source reaches, its inside at a byte position, and
behind which no body and closing tag of such a quotation follow.
-/
def UnclosedAt (source : List Char) (kind : Quotation) (position : Nat) : Prop :=
  ∃ before content rest, Reaches source before (Piece.enclose .block content ++ rest) ∧
    Piece.insidePosition (Text.width before) content = position ∧
    Text.ClosedBy Delimiter.block.closing content ∧ Quotation.ofTag? content = some kind ∧
    ∀ body closing after, rest = body ++ Piece.enclose .block closing ++ after →
      ¬ kind.Whole 0 body closing

variable {source before rest : List Char}

/-- What a source reaches with a delimiter stands behind whole pieces. -/
theorem reaches_iff (opens : (Delimiter.opens? rest).isSome) :
    Reaches source before rest ↔
      ∃ pieces, Piece.TilesUpTo source pieces rest ∧ pieces.flatMap Piece.source = before := by
  constructor
  · rintro ⟨rfl, ⟨segments, scanned⟩, unbraced⟩
    obtain ⟨pieces, tiles, -⟩ := scan_eq_ok_iff.1 scanned
    exact ⟨pieces, (Piece.tilesUpTo_iff opens).2 ⟨tiles, unbraced⟩, tiles.eq_flatMap.symm⟩
  · rintro ⟨pieces, tiles, rfl⟩
    have whole := tiles.eq_append
    rw [whole] at tiles
    obtain ⟨known, unbraced⟩ := (Piece.tilesUpTo_iff opens).1 tiles
    exact ⟨whole, ⟨_, scan_eq_ok_iff.2 ⟨pieces, known, rfl⟩⟩, unbraced⟩

/-- A source that does not fall into segments reaches what scanning stops at. -/
theorem scan_eq_error_iff {failure : Located ScanFailure} :
    scan source = .error failure ↔
      ∃ before rest, Reaches source before rest ∧
        Piece.StopsAt (Text.width before) rest failure := by
  rw [scan, Except.map_eq_error_iff, Piece.scan_eq_error_iff]
  simp only [Nat.zero_add]
  constructor
  · rintro ⟨pieces, rest, tiles, stops⟩
    exact ⟨_, rest, (reaches_iff stops.opens?_isSome).2 ⟨pieces, tiles, rfl⟩, stops⟩
  · rintro ⟨before, rest, reaches, stops⟩
    obtain ⟨pieces, tiles, rfl⟩ := (reaches_iff stops.opens?_isSome).1 reaches
    exact ⟨pieces, rest, tiles, stops⟩

theorem unterminatedAt_iff {delimiter : Delimiter} {position : Nat} :
    UnterminatedAt source delimiter position ↔
      scan source = .error ⟨.unterminated delimiter, position⟩ := by
  rw [scan_eq_error_iff]
  constructor
  · rintro ⟨before, inside, reaches, rfl, missing⟩
    exact ⟨before, _, reaches, .unterminated missing⟩
  · rintro ⟨before, rest, reaches, stops⟩
    cases stops with
    | unterminated missing => exact ⟨before, _, reaches, rfl, missing⟩

theorem unclosedAt_iff {kind : Quotation} {position : Nat} :
    UnclosedAt source kind position ↔ scan source = .error ⟨.unclosed kind, position⟩ := by
  have missing_iff (rest : List Char) : kind.split? 0 rest = none ↔
      ∀ body closing after, rest = body ++ Piece.enclose .block closing ++ after →
        ¬ kind.Whole 0 body closing := by
    simp only [Option.eq_none_iff_forall_ne_some, Prod.forall, ne_eq,
      Quotation.split?_eq_some_iff, not_and]
  rw [scan_eq_error_iff]
  constructor
  · rintro ⟨before, content, rest, reaches, rfl, closed, opens, missing⟩
    exact ⟨before, _, reaches, .unclosed closed opens ((missing_iff rest).2 missing)⟩
  · rintro ⟨before, _, reaches, stops⟩
    cases stops with
    | @unclosed _ content rest closed opens missing =>
        exact ⟨before, content, rest, reaches, rfl, closed, opens, (missing_iff rest).1 missing⟩

/--
Scanning reports a delimiter just where a source reaches it and nothing closes
it.  What is reported stands behind whole pieces, so in no quotation; every
delimiter that the source reaches before it is closed; and a source with neither
such a delimiter nor the tag of a quotation that nothing closes falls into
segments.
-/
theorem scan_eq_unterminated_iff (source : String) :
    (∀ delimiter position,
      scan source.toList = .error ⟨.unterminated delimiter, position⟩ ↔
        ∃ before inside, source.toList = before ++ delimiter.opening ++ inside ∧
          Text.width before = position ∧ (∃ segments, scan before = .ok segments) ∧
          before.getLast? ≠ some '{' ∧ ¬ delimiter.closing <:+: inside) ∧
    (∀ delimiter position,
      scan source.toList = .error ⟨.unterminated delimiter, position⟩ →
        (∃ pieces inside,
          Piece.TilesUpTo source.toList pieces (delimiter.opening ++ inside) ∧
            Text.width (pieces.flatMap Piece.source) = position) ∧
        ∀ before (other : Delimiter) inside,
          Reaches source.toList before (other.opening ++ inside) →
            Text.width before < position → other.closing <:+: inside) ∧
    ((∃ segments, scan source.toList = .ok segments) ↔
      (∀ delimiter position, ¬ UnterminatedAt source.toList delimiter position) ∧
        ∀ kind position, ¬ UnclosedAt source.toList kind position) := by
  refine ⟨fun delimiter position => ?_, fun delimiter position failed => ⟨?_, ?_⟩, ?_⟩
  · rw [← unterminatedAt_iff]
    constructor
    · rintro ⟨before, inside, ⟨whole, scans, unbraced⟩, width, missing⟩
      exact ⟨before, inside, by rw [whole, List.append_assoc], width, scans, unbraced, missing⟩
    · rintro ⟨before, inside, whole, width, scans, unbraced, missing⟩
      exact ⟨before, inside, ⟨by rw [whole, List.append_assoc], scans, unbraced⟩, width, missing⟩
  · obtain ⟨before, inside, reaches, width, -⟩ := unterminatedAt_iff.2 failed
    obtain ⟨pieces, tiles, rfl⟩ := (reaches_iff (by simp)).1 reaches
    exact ⟨pieces, inside, tiles, width⟩
  · intro before other inside reaches earlier
    by_contra missing
    -- A delimiter that nothing closes would itself be what is reported.
    have reported := unterminatedAt_iff.1 ⟨before, inside, reaches, rfl, missing⟩
    rw [failed] at reported
    cases reported
    exact lt_irrefl _ earlier
  · simp only [unterminatedAt_iff, unclosedAt_iff]
    cases scanned : scan source.toList with
    | ok segments => simp
    | error failure =>
        obtain ⟨reason, position⟩ := failure
        cases reason <;> simp

/-- A brace before a delimiter, a delimiter in a raw quotation, and one that shares its end. -/
theorem scan_eq_unterminated_iff_raw :
    let source := "é\x7b{{ x }}{% raw %}\x7b\x7b{% endraw %}\x7b%\x7d"
    scan source.toList = .error ⟨.unterminated .block, 33⟩ ∧
      (∃ pieces inside,
        Piece.TilesUpTo source.toList pieces (Delimiter.block.opening ++ inside) ∧
          Text.width (pieces.flatMap Piece.source) = 33) ∧
      ∀ before (other : Delimiter) inside,
        Reaches source.toList before (other.opening ++ inside) →
          Text.width before < 33 → other.closing <:+: inside := by
  intro source
  have failed : scan source.toList = .error ⟨.unterminated .block, 33⟩ := by decide +kernel
  exact ⟨failed, (scan_eq_unterminated_iff source).2.1 .block 33 failed⟩

end Segment

end Stencil
