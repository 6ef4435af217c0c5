import Stencil.Proofs.Alike
import Stencil.Proofs.Piece.Tiling

/-!
# Where scanning stops

Scanning goes through the pieces at the beginning of a source.  It fails where
the next piece would begin with a delimiter, or with the tag of a quotation,
that nothing closes.  The pieces in front of a delimiter are those of the source
that ends there, unless that source ends in a brace.
-/

namespace Stencil

namespace Piece

/-- A source begins with pieces, behind which the rest stands. -/
inductive TilesUpTo : List Char → List Piece → List Char → Prop
  | nil {source : List Char} : TilesUpTo source [] source
  | cons {piece : Piece} {rest remaining : List Char} {pieces : List Piece}
      (wellFormed : piece.WellFormed) (ends : piece.EndsBefore rest)
      (tiles : TilesUpTo rest pieces remaining) :
      TilesUpTo (piece.source ++ rest) (piece :: pieces) remaining

variable {source before remaining : List Char} {pieces : List Piece} {position : Nat}

theorem TilesUpTo.eq_append (tiles : TilesUpTo source pieces remaining) :
    source = pieces.flatMap Piece.source ++ remaining := by
  induction tiles with
  | nil => rfl
  | cons _ _ _ ih => rw [List.flatMap_cons, List.append_assoc, ← ih]

/-- Scanning finds the pieces at the beginning, and goes on behind them. -/
theorem TilesUpTo.scan_eq (tiles : TilesUpTo source pieces remaining) :
    scan position source =
      (scan (position + Text.width (pieces.flatMap Piece.source)) remaining).map
        (pieces ++ ·) := by
  induction tiles generalizing position with
  | @nil source =>
      change scan position source = (scan position source).map id
      cases scan position source <;> rfl
  | @cons piece rest remaining pieces wellFormed ends tiles ih =>
      rw [scan_source_append wellFormed ends, ih, List.flatMap_cons, Text.width_append,
        Nat.add_assoc]
      cases scan (position + (Text.width piece.source +
        Text.width (pieces.flatMap Piece.source))) remaining <;> rfl

/-! ## Pieces in front of a delimiter -/

theorem opens?_isSome_append (opens : (Delimiter.opens? before).isSome) (rest : List Char) :
    (Delimiter.opens? (before ++ rest)).isSome := by
  rw [Option.isSome_iff_ne_none] at opens ⊢
  exact fun closed =>
    opens (Delimiter.opens?_eq_none_of_prefix (List.prefix_append before rest) closed)

/-- What ends a text run in front of a delimiter ends it without the delimiter. -/
theorem TextEnd.of_append {content : List Char} (ends : TextEnd content (before ++ remaining))
    (unbraced : before.getLast? ≠ some '{') : TextEnd content before := by
  cases before with
  | nil => exact .inl rfl
  | cons char chars =>
      rcases ends with empty | ⟨opens, last⟩
      · simp at empty
      · refine .inr ⟨?_, last⟩
        cases chars with
        | nil =>
            -- A single character would be the brace of the delimiter behind it.
            have head := Delimiter.head?_of_opens? opens
            exact absurd (by simpa using head) unbraced
        | cons next chars =>
            rw [Option.isSome_iff_ne_none] at opens ⊢
            exact fun closed => opens (Delimiter.opens?_append_eq_none (by simp) closed remaining)

theorem EndsBefore.of_append {piece : Piece} (ends : piece.EndsBefore (before ++ remaining))
    (unbraced : before.getLast? ≠ some '{') : piece.EndsBefore before := by
  cases piece with
  | text content => exact TextEnd.of_append ends unbraced
  | span delimiter content => trivial
  | quotation kind content body closing => trivial

theorem getLast?_append_enclose (text : List Char) (delimiter : Delimiter)
    (content : List Char) : (text ++ enclose delimiter content).getLast? = some '}' := by
  rw [enclose, List.getLast?_append, List.getLast?_append]
  cases delimiter <;> rfl

/-- A piece does not end in a brace where it ends before a delimiter. -/
theorem EndsBefore.getLast?_source_ne {piece : Piece} (ends : piece.EndsBefore remaining)
    (nonempty : remaining ≠ []) : piece.source.getLast? ≠ some '{' := by
  cases piece with
  | text content =>
      rcases ends with finished | ⟨-, last⟩
      · exact absurd finished nonempty
      · exact last
  | span delimiter content =>
      rw [Piece.source, ← List.nil_append (enclose delimiter content), getLast?_append_enclose]
      simp
  | quotation kind content body closing =>
      rw [Piece.source, getLast?_append_enclose]
      simp

/-- The pieces in front of a delimiter are those of the source that ends there. -/
theorem tilesUpTo_iff (opens : (Delimiter.opens? remaining).isSome) :
    TilesUpTo (before ++ remaining) pieces remaining ↔
      Tiles before pieces ∧ before.getLast? ≠ some '{' := by
  have nonempty : remaining ≠ [] := by
    rintro rfl
    simp [Delimiter.opens?] at opens
  constructor
  · intro tiles
    generalize whole : before ++ remaining = source at tiles
    induction tiles generalizing before with
    | nil =>
        obtain rfl : before = [] := by simpa using whole
        exact ⟨.nil, by simp⟩
    | @cons piece rest remaining pieces wellFormed ends tiles ih =>
        have split := tiles.eq_append
        subst split
        obtain rfl : before = piece.source ++ pieces.flatMap Piece.source := by
          simpa [← List.append_assoc] using whole
        obtain ⟨later, unbraced⟩ := ih opens nonempty rfl
        refine ⟨.cons wellFormed (ends.of_append unbraced) later, ?_⟩
        rw [List.getLast?_append]
        cases last : (pieces.flatMap Piece.source).getLast? with
        | none =>
            rw [List.getLast?_eq_none_iff.1 last, List.nil_append] at ends
            rw [Option.none_or]
            exact ends.getLast?_source_ne nonempty
        | some char => rwa [Option.some_or, ← last]
  · rintro ⟨tiles, unbraced⟩
    induction tiles with
    | nil => exact .nil
    | @cons piece rest pieces wellFormed ends tiles ih =>
        rw [List.append_assoc]
        have later : rest.getLast? ≠ some '{' := by
          intro brace
          rw [List.getLast?_append, brace, Option.some_or] at unbraced
          exact unbraced rfl
        refine .cons wellFormed ?_ (ih later)
        cases piece with
        | text content =>
            rcases ends with rfl | ⟨opensRest, last⟩
            · exact .inr ⟨opens, by rwa [List.append_nil] at unbraced⟩
            · exact .inr ⟨opens?_isSome_append opensRest remaining, last⟩
        | span delimiter content => trivial
        | quotation kind content body closing => trivial

/-! ## What scanning stops at -/

/-- What scanning cannot go on with: something that nothing closes. -/
inductive StopsAt (position : Nat) : List Char → Located ScanFailure → Prop
  | unterminated {delimiter : Delimiter} {inside : List Char}
      (missing : ¬ delimiter.closing <:+: inside) :
      StopsAt position (delimiter.opening ++ inside) ⟨.unterminated delimiter, position⟩
  | unclosed {kind : Quotation} {content rest : List Char}
      (closed : Text.ClosedBy Delimiter.block.closing content)
      (opens : Quotation.ofTag? content = some kind) (missing : kind.split? 0 rest = none) :
      StopsAt position (enclose .block content ++ rest)
        ⟨.unclosed kind, insidePosition position content⟩

namespace StopsAt

variable {failure : Located ScanFailure}

theorem scan_eq (stops : StopsAt position source failure) :
    scan position source = .error failure := by
  cases stops with
  | unterminated missing => exact scan_unterminated (Text.cut_eq_none_iff.2 missing)
  | unclosed closed opens missing => exact scan_enclose_of_unclosed closed opens missing

theorem opens?_isSome (stops : StopsAt position source failure) :
    (Delimiter.opens? source).isSome := by
  cases stops with
  | unterminated missing => rw [Delimiter.opens?_append, Option.isSome_some]
  | unclosed closed opens missing =>
      rw [enclose, List.append_assoc, List.append_assoc, Delimiter.opens?_append,
        Option.isSome_some]

/-- What cannot be gone on with at one position cannot be at another, for the same reason. -/
theorem exists_at (stops : StopsAt position source failure) (other : Nat) :
    ∃ place, StopsAt other source place ∧ failure.content = place.content := by
  cases stops with
  | unterminated missing => exact ⟨_, .unterminated missing, rfl⟩
  | unclosed closed opens missing => exact ⟨_, .unclosed closed opens missing, rfl⟩

end StopsAt

/-- A source that cannot be scanned begins with pieces, behind which scanning stops. -/
theorem scan_eq_error_iff {failure : Located ScanFailure} :
    scan position source = .error failure ↔
      ∃ pieces remaining, TilesUpTo source pieces remaining ∧
        StopsAt (position + Text.width (pieces.flatMap Piece.source)) remaining failure := by
  constructor
  · intro failed
    induction size : source.length using Nat.strong_induction_on generalizing source position with
    | _ length ih =>
        rcases beginning_cases source with
          rfl | ⟨delimiter, inside, rfl, missing⟩ |
            ⟨kind, content, rest, rfl, closed, opens, missing⟩ |
              ⟨piece, rest, rfl, wellFormed, ends⟩
        · simp at failed
        · rw [scan_unterminated missing] at failed
          cases failed
          exact ⟨[], _, .nil, .unterminated (Text.cut_eq_none_iff.1 missing)⟩
        · rw [scan_enclose_of_unclosed closed opens missing] at failed
          cases failed
          exact ⟨[], _, .nil, .unclosed closed opens missing⟩
        · -- No piece is empty, so what stands behind the first one is shorter.
          have nonempty := List.length_pos_iff.2 wellFormed.source_ne_nil
          rw [List.length_append] at size
          rw [scan_source_append wellFormed ends, Except.map_eq_error_iff] at failed
          obtain ⟨pieces, remaining, tiles, stops⟩ := ih rest.length (by omega) failed rfl
          refine ⟨piece :: pieces, remaining, .cons wellFormed ends tiles, ?_⟩
          rwa [List.flatMap_cons, Text.width_append, ← Nat.add_assoc]
  · rintro ⟨pieces, remaining, tiles, stops⟩
    rw [tiles.scan_eq, stops.scan_eq, Except.map_eq_error_iff]

/-- Where a source stands shows in the positions of its failures only. -/
theorem alike_scan (position other : Nat) (source : List Char) :
    Located.Alike Eq (scan position source) (scan other source) := by
  cases scanned : scan position source with
  | ok pieces =>
      rw [scan_eq_ok_iff.2 (scan_eq_ok_iff.1 scanned)]
      exact .ok rfl
  | error failure =>
      obtain ⟨pieces, remaining, tiles, stops⟩ := scan_eq_error_iff.1 scanned
      obtain ⟨place, there, same⟩ := stops.exists_at _
      rw [scan_eq_error_iff.2 ⟨pieces, remaining, tiles, there⟩]
      exact .error same

end Piece

end Stencil
