import Stencil.Block
import Stencil.Proofs.Piece.Cursor
import Stencil.Proofs.Segment.Decomposition

/-!
# Scanning by byte positions

A source is scanned from one byte position to the next, and tags are taken apart
at byte positions.  No slice is taken outside of the source or inside of a
character, no length falls below zero and no loop goes on forever: the segments
of the source and the parts of its tags come out.
-/

namespace Stencil

namespace Segment

/-- The segment of a span, by its delimiter. -/
def ofSpan (inner : List Char) (position : Nat) : Delimiter → Segment
  | .output => .output inner position
  | .block => .block inner position

/-- What stands at a byte position of a source, and the position behind it. -/
def nextAt? (source : List Char) (position : Nat) :
    Option (Except (Located ScanFailure) (Option (Segment × Nat))) := do
  let rest ← Text.from? source position
  if rest.isEmpty then
    return .ok none
  match Delimiter.find? rest with
  | some 0 =>
      let delimiter :=
        if (Text.after Delimiter.output.opening rest).isSome then Delimiter.output else .block
      let inside := position + Text.width delimiter.opening
      match Text.find? delimiter.closing (← Text.from? source inside) with
      | none => return .error ⟨.unterminated delimiter, position⟩
      | some length =>
          let content ← Text.between? source inside (inside + length)
          let leading ← Text.less? (Text.width content) (Text.width (Text.trimStart content))
          return .ok (some (ofSpan (Text.trim content) (inside + leading) delimiter,
            inside + length + Text.width delimiter.closing))
  | some distance =>
      let text ← Text.between? rest 0 distance
      return .ok (some (.text text, position + distance))
  | none => return .ok (some (.text rest, Text.width source))

/-- The quotation that a tag opens, with the position of its inside. -/
def quotes? : Segment → Option (Quotation × Nat)
  | .block inner position =>
      if inner = Quotation.opener .raw then
        some (.raw, position)
      else if Text.firstWord inner = Quotation.opener .comment then
        some (.comment, position)
      else
        none
  | _ => none

/-- What the body of a quotation contributes. -/
def ofBody (body : List Char) : Quotation → List Segment
  | .raw => if body.isEmpty then [] else [.text body]
  | .comment => []

/-- The segments of a source from a byte position on, which is scanned for a number of pieces. -/
def scanAt? (source : List Char) :
    (steps position : Nat) → Option (Except (Located ScanFailure) (List Segment))
  | 0, _ => none
  | steps + 1, position => do
      match ← nextAt? source position with
      | .error failure => return .error failure
      | .ok none => return .ok []
      | .ok (some (segment, behind)) =>
          match segment.quotes? with
          | none =>
              let later ← scanAt? source steps behind
              return later.map (segment :: ·)
          | some (kind, opener) =>
              match ← kind.bodyAt? source behind (source.length + 1) behind 1 with
              | none => return .error ⟨.unclosed kind, opener⟩
              | some (body, behind) =>
                  let later ← scanAt? source steps behind
                  return later.map (ofBody body kind ++ ·)

variable {before rest : List Char}

theorem nextAt?_nil (before : List Char) :
    nextAt? before (Text.width before) = some (.ok none) := by
  have here := Text.from?_width before []
  rw [List.append_nil] at here
  rw [nextAt?, here]
  rfl

theorem nextAt?_text {content : List Char} (wellFormed : (Piece.text content).WellFormed)
    (ends : (Piece.text content).EndsBefore rest) :
    nextAt? (before ++ content ++ rest) (Text.width before) =
      some (.ok (some (.text content, Text.width (before ++ content)))) := by
  obtain ⟨nonempty, plain⟩ := wellFormed
  have first := Delimiter.find?_eq (content ++ rest)
  rw [Piece.spanText_append_of_plain plain ends] at first
  rw [nextAt?, List.append_assoc, Text.from?_width]
  simp only [Option.bind_eq_bind, Option.bind_some, first]
  cases rest with
  | nil => simp [nonempty]
  | cons next rest =>
      obtain ⟨distance, width_eq⟩ : ∃ distance, Text.width content = distance + 1 :=
        Nat.exists_eq_succ_of_ne_zero (Text.width_pos nonempty).ne'
      have taken := Text.between?_width [] content (next :: rest)
      simp only [List.nil_append, Text.width_nil, width_eq] at taken
      simp [nonempty, width_eq, taken]

/-- Behind a delimiter stands the inside of a span, unless nothing closes it. -/
theorem nextAt?_opening (delimiter : Delimiter) (inside : List Char) :
    nextAt? (before ++ delimiter.opening ++ inside) (Text.width before) =
      match Text.cut delimiter.closing inside with
      | none => some (.error ⟨.unterminated delimiter, Text.width before⟩)
      | some (content, _) => some (.ok (some
          (ofSpan (Text.trim content) (Piece.insidePosition (Text.width before) content) delimiter,
            Text.width (before ++ Piece.enclose delimiter content)))) := by
  have first : Delimiter.find? (delimiter.opening ++ inside) = some 0 := by
    have opens : (Delimiter.opens? (delimiter.opening ++ inside)).isSome := by
      rw [Delimiter.opens?_append]
      rfl
    rw [Delimiter.find?_eq, Piece.spanText_of_opens opens]
    cases delimiter <;> rfl
  have same : (if (Text.after Delimiter.output.opening (delimiter.opening ++ inside)).isSome
      then Delimiter.output else .block) = delimiter := by
    cases delimiter <;> rfl
  have nonempty : (delimiter.opening ++ inside).isEmpty = false := by cases delimiter <;> rfl
  have behind := Text.from?_width (before ++ delimiter.opening) inside
  rw [nextAt?, List.append_assoc, Text.from?_width]
  simp only [Option.bind_eq_bind, Option.bind_some, first, same, nonempty, ← Text.width_append]
  rw [← List.append_assoc, behind, Option.bind_some]
  cases found : Text.cut delimiter.closing inside with
  | none =>
      rw [Text.find?_eq_none found]
      rfl
  | some parts =>
      obtain ⟨content, rest⟩ := parts
      obtain ⟨rfl, -⟩ := Text.cut_eq_some_iff.1 found
      have last : Text.width (before ++ delimiter.opening) + Text.width content +
          Text.width delimiter.closing =
            Text.width (before ++ Piece.enclose delimiter content) := by
        simp only [Piece.enclose, Text.width_append]
        omega
      have position : Piece.insidePosition (Text.width before) content =
          Text.width (before ++ delimiter.opening) +
            (Text.width content - Text.width (Text.trimStart content)) := by
        rw [Piece.insidePosition, Text.width_append, delimiter.width_opening]
      simp only [Text.find?_of_cut found]
      rw [Text.between?_closed, Option.bind_some, Text.less?_trimStart, Option.bind_some, last,
        position]
      rfl

theorem nextAt?_span {delimiter : Delimiter} {content : List Char}
    (closed : Text.ClosedBy delimiter.closing content) :
    nextAt? (before ++ Piece.enclose delimiter content ++ rest) (Text.width before) =
      some (.ok (some
        (ofSpan (Text.trim content) (Piece.insidePosition (Text.width before) content) delimiter,
          Text.width (before ++ Piece.enclose delimiter content)))) := by
  have next := @nextAt?_opening before delimiter (content ++ delimiter.closing ++ rest)
  rw [closed.cut] at next
  simpa only [Piece.enclose, List.append_assoc] using next

/-- A piece of a source contributes its segments, and the rest those that it has. -/
theorem map_ofPieces_scan {piece : Piece} (position : Nat) (wellFormed : piece.WellFormed)
    (ends : piece.EndsBefore rest) :
    (Piece.scan position (piece.source ++ rest)).map (ofPieces position) =
      ((Piece.scan (position + Text.width piece.source) rest).map
        (ofPieces (position + Text.width piece.source))).map (ofPiece position piece ++ ·) := by
  rw [Piece.scan_source_append wellFormed ends]
  cases Piece.scan (position + Text.width piece.source) rest <;> rfl

theorem quotes?_ofSpan (content : List Char) (position : Nat) (delimiter : Delimiter) :
    (ofSpan (Text.trim content) position delimiter).quotes? =
      (if delimiter = .block then Quotation.ofTag? content else none).map (·, position) := by
  cases delimiter with
  | output => rfl
  | block =>
      simp only [ofSpan, quotes?, Text.firstWord_trim, Quotation.ofTag?]
      split
      · rfl
      · split <;> rfl

theorem quotes?_of_ofTag? {kind : Quotation} {content : List Char}
    (opens : Quotation.ofTag? content = some kind) (position : Nat) :
    (ofSpan (Text.trim content) position .block).quotes? = some (kind, position) := by
  rw [quotes?_ofSpan, if_pos rfl, opens, Option.map_some]

section Next

variable {source body : List Char} {segment : Segment} {kind : Quotation}
  {steps position behind opener after : Nat}
  (next : nextAt? source position = some (.ok (some (segment, behind))))

include next

theorem scanAt?_of_single (single : segment.quotes? = none) :
    scanAt? source (steps + 1) position =
      (scanAt? source steps behind).map fun later => later.map (segment :: ·) := by
  rw [scanAt?, next]
  simp only [Option.bind_eq_bind, Option.bind_some, single]
  cases scanAt? source steps behind <;> rfl

theorem scanAt?_of_body (quotes : segment.quotes? = some (kind, opener))
    (found : kind.bodyAt? source behind (source.length + 1) behind 1 = some (some (body, after))) :
    scanAt? source (steps + 1) position =
      (scanAt? source steps after).map fun later => later.map (ofBody body kind ++ ·) := by
  rw [scanAt?, next]
  simp only [Option.bind_eq_bind, Option.bind_some, quotes, found]
  cases scanAt? source steps after <;> rfl

theorem scanAt?_of_unclosed (quotes : segment.quotes? = some (kind, opener))
    (missing : kind.bodyAt? source behind (source.length + 1) behind 1 = some none) :
    scanAt? source (steps + 1) position = some (.error ⟨.unclosed kind, opener⟩) := by
  rw [scanAt?, next]
  simp only [Option.bind_eq_bind, Option.bind_some, quotes, missing]
  rfl

end Next

/-- A piece is found at the position where it stands, and the scan goes on behind it. -/
theorem scanAt?_source_append {steps : Nat} {piece : Piece} (wellFormed : piece.WellFormed)
    (ends : piece.EndsBefore rest) :
    scanAt? (before ++ piece.source ++ rest) (steps + 1) (Text.width before) =
      (scanAt? (before ++ piece.source ++ rest) steps (Text.width (before ++ piece.source))).map
        fun later => later.map (ofPiece (Text.width before) piece ++ ·) := by
  cases piece with
  | text content => exact scanAt?_of_single (nextAt?_text wellFormed ends) rfl
  | span delimiter content =>
      obtain ⟨closed, single⟩ := wellFormed
      refine (scanAt?_of_single (nextAt?_span closed) ?_).trans ?_
      · simpa [quotes?_ofSpan] using single
      · cases delimiter <;> rfl
  | quotation kind content body closing =>
      obtain ⟨closed, opens, whole⟩ := wellFormed
      have found := @Quotation.bodyAt?_start kind (before ++ Piece.enclose .block content)
        (body ++ Piece.enclose .block closing ++ rest)
      rw [Quotation.split?_of_whole whole] at found
      have source : before ++ (Piece.quotation kind content body closing).source ++ rest =
          before ++ Piece.enclose .block content ++
            (body ++ Piece.enclose .block closing ++ rest) := by
        simp only [Piece.source, List.append_assoc]
      rw [source, scanAt?_of_body (nextAt?_span closed) (quotes?_of_ofTag? opens _) found]
      have behind : before ++ Piece.enclose .block content ++ [] ++ body ++
          Piece.enclose .block closing =
            before ++ (Piece.quotation kind content body closing).source := by
        simp only [Piece.source, List.append_nil, List.append_assoc]
      rw [behind]
      cases kind <;> rfl

/-- What is found by byte positions, behind a part of the source that was scanned before. -/
theorem scanAt?_width {steps : Nat} (before : List Char) {rest : List Char}
    (enough : rest.length < steps) :
    scanAt? (before ++ rest) steps (Text.width before) =
      some ((Piece.scan (Text.width before) rest).map (ofPieces (Text.width before))) := by
  -- Every piece has a character, so the rest gets shorter than the steps that are left.
  induction steps generalizing before rest with
  | zero => omega
  | succ steps ih =>
      rcases Piece.beginning_cases rest with
        rfl | ⟨delimiter, inside, rfl, missing⟩ |
          ⟨kind, content, rest, rfl, closed, opens, missing⟩ |
          ⟨piece, rest, rfl, wellFormed, ends⟩
      · rw [List.append_nil, scanAt?, nextAt?_nil, Piece.scan_nil]
        rfl
      · rw [← List.append_assoc, scanAt?, nextAt?_opening, missing, Piece.scan_unterminated missing]
        rfl
      · have found := @Quotation.bodyAt?_start kind (before ++ Piece.enclose .block content) rest
        rw [missing] at found
        rw [Piece.scan_enclose_of_unclosed closed opens missing, ← List.append_assoc]
        exact scanAt?_of_unclosed (nextAt?_span closed) (quotes?_of_ofTag? opens _) found
      · have shorter : rest.length < steps := by
          have positive := List.length_pos_iff.2 wellFormed.source_ne_nil
          rw [List.length_append] at enough
          omega
        rw [← List.append_assoc, scanAt?_source_append wellFormed ends, ih _ shorter,
          map_ofPieces_scan _ wellFormed ends, Text.width_append]
        rfl

/-- More steps than a source has characters are enough for it, and no slice of it is missing. -/
theorem scanAt?_zero {steps : Nat} {source : List Char} (enough : source.length < steps) :
    scanAt? source steps 0 = some (scan source) :=
  scanAt?_width [] enough

end Segment

/-! ## The parts of a tag -/

/-- The byte position of the first blank. -/
def Text.findBlank? : List Char → Option Nat
  | [] => none
  | char :: chars =>
      if isBlank char then some 0 else (findBlank? chars).map (char.utf8Size + ·)

theorem Text.getD_findBlank? (text : List Char) :
    (findBlank? text).getD (width text) = width (untilBlank text) := by
  induction text with
  | nil => rfl
  | cons char chars ih =>
      cases blank : isBlank char with
      | true => simp [findBlank?, untilBlank, blank]
      | false =>
          have word : untilBlank (char :: chars) = char :: untilBlank chars := by
            simp [untilBlank, blank]
          rw [word, width_cons, width_cons, ← ih, findBlank?, blank]
          cases findBlank? chars <;> rfl

namespace Tag

/-- The tag with an inside at a byte position, taken apart behind its keyword. -/
def split? (inner : List Char) (position : Nat) : Option Tag := do
  let length := (Text.findBlank? inner).getD (Text.width inner)
  let arguments := Text.trimStart (← Text.from? inner length)
  let keyword ← Text.between? inner 0 length
  let argumentsAt ← Text.less? (position + Text.width inner) (Text.width arguments)
  return { keyword := String.ofList keyword, position, arguments := ⟨arguments, argumentsAt⟩ }

/-- A tag is taken apart between its characters, and its arguments are not longer than it is. -/
theorem split?_eq (inner : List Char) (position : Nat) :
    split? inner position = some (ofInside inner position) := by
  have parts : Text.untilBlank inner ++ Text.fromBlank inner = inner :=
    List.takeWhile_append_dropWhile
  have behind := Text.from?_width (Text.untilBlank inner) (Text.fromBlank inner)
  rw [parts] at behind
  have keyword := Text.between?_width [] (Text.untilBlank inner) (Text.fromBlank inner)
  rw [List.nil_append, parts, Text.width_nil] at keyword
  have fits : Text.width (Text.trimStart (Text.fromBlank inner)) ≤ position + Text.width inner := by
    have whole := congrArg Text.width parts
    have blanks := congrArg Text.width (Text.leadingBlanks_append_trimStart (Text.fromBlank inner))
    rw [Text.width_append] at whole blanks
    omega
  rw [split?, Text.getD_findBlank?, behind, Option.bind_eq_bind, Option.bind_some, keyword,
    Option.bind_eq_bind, Option.bind_some, Text.less?, if_pos fits]
  rfl

end Tag

end Stencil
