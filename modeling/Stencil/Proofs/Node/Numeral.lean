import Stencil.Proofs.Block.Operands
import Stencil.Proofs.Node.Compilation
import Stencil.Proofs.Piece.Numeral
import Stencil.Proofs.Template.Walk

/-!
# Numerals of a source

Any numeral of a source that compiles can be exchanged for another one that
could stand there: the nodes have another literal then, and all else in them is
the same, or the source is refused for the new numeral.
-/

namespace Stencil

open Grammar (IsNumeral)

/-- The numerals among the operands of a source. -/
def Numeral.ofSource (source : List Char) : List Numeral :=
  match Segment.scan source with
  | .ok segments => segments.flatMap Segment.numerals
  | .error _ => []

namespace Piece

theorem marks?_span_cons_eq_some_iff {config : Config} {delimiter : Delimiter}
    {content : List Char} {pieces : List Piece} {whole : List Mark} (position : Nat) :
    marks? config (.span delimiter content :: pieces) = some whole ↔
      ∃ mark later,
        (Segment.ofInside delimiter (Text.trim content) position).mark? config = some mark ∧
        marks? config pieces = some later ∧ mark :: later = whole := by
  have here : (Segment.ofInside delimiter (Text.trim content) position).mark? config =
      Mark.ofShown? config (some delimiter, Text.trim content) := by
    rw [Segment.mark?_eq_ofShown?]
    cases delimiter <;> rfl
  rw [here]
  unfold marks?
  simp [shown?, Option.bind_eq_some_iff]

end Piece

namespace Mark

theorem isCase_eq_of_sameForm {mark other : Mark} (same : mark.SameForm other) :
    mark.isCase = other.isCase := by
  cases same <;> rfl

theorem isText_of_operands_ne_nil {mark : Mark} (operated : mark.operands ≠ []) :
    mark.isText = false := by
  cases mark <;> first | rfl | exact absurd rfl operated

/-- A mark that is no text is never left out. -/
theorem withoutPreambles_append_cons {mark : Mark} (solid : mark.isText = false)
    (before behind : List Mark) (inPreamble : Bool) :
    withoutPreambles inPreamble (before ++ mark :: behind) =
      withoutPreambles inPreamble before ++ mark :: withoutPreambles mark.isCase behind := by
  induction before generalizing inPreamble with
  | nil => simp [withoutPreambles, solid]
  | cons first before ih =>
      rw [List.cons_append, withoutPreambles, withoutPreambles]
      split
      · exact ih true
      · rw [ih, List.cons_append]

end Mark

namespace Node

/-- Nodes that are the same but for one operand: a literal, which is `value` in the others. -/
def Relabels (value : Value) (nodes others : List Node) : Prop :=
  ∃ before mark again behind, walkBody nodes = before ++ mark :: behind ∧
    walkBody others = before ++ again :: behind ∧ mark.SameForm again ∧
    ∃ first old last, mark.operands = first ++ .literal old :: last ∧
      again.operands = first ++ .literal value :: last

/-- What a source comes to in which a literal is read again. -/
def Rereads (config : Config) (nodes : List Node) (source : List Char) : Checked Value → Prop
  | .ok value => ∃ others, compile config source = .ok others ∧ Relabels value nodes others
  | .error failure => compile config source = .error failure

section

variable {config : Config}

/-- Marks that are put together are the walk of their nodes, around one that is no text. -/
theorem walkBody_of_marks {pieces : List Piece} {before behind : List Mark} {mark : Mark}
    {nodes : List Node} (solid : mark.isText = false)
    (reads : Piece.marks? config pieces = some (before ++ mark :: behind))
    (built : Outline.build (before ++ mark :: behind) = some nodes) :
    walkBody nodes = Mark.withoutPreambles false before ++
      mark :: Mark.withoutPreambles mark.isCase behind := by
  rw [← Segment.mapM_mark?_ofPieces config 0] at reads
  rw [(Outline.walk_of_build (Segment.positive_of_mapM_mark? reads) built).2,
    Mark.withoutPreambles_append_cons solid]

/-- Segments of a source that falls into pieces. -/
theorem compile_of_tiles {source : List Char} {pieces : List Piece}
    (tiles : Piece.Tiles source pieces) :
    compile config source = ofSegments config (Segment.ofPieces 0 pieces) := by
  rw [compile, Segment.scan, Piece.scan_of_tiles tiles]
  rfl

/-- The segments of pieces with a span among them. -/
theorem ofPieces_span (first after : List Piece) (delimiter : Delimiter) (content : List Char) :
    Segment.ofPieces 0 (first ++ .span delimiter content :: after) =
      Segment.ofPieces 0 first ++
        Segment.ofInside delimiter (Text.trim content)
            (Piece.insidePosition (Text.width (first.flatMap Piece.source)) content) ::
          Segment.ofPieces (Text.width (first.flatMap Piece.source) +
            Text.width (Piece.span delimiter content).source) after := by
  rw [Segment.ofPieces_append, Segment.ofPieces, Segment.ofPiece_span, Nat.zero_add,
    List.singleton_append]

variable {source again : List Char} {first after : List Piece} {delimiter : Delimiter}
  {content other : List Char} {nodes : List Node} {position : Nat} {literal : Checked Value}

/-- Another span in the place of one, which says the same but for a literal. -/
theorem rereads_of_tiles
    (tiles : Piece.Tiles source (first ++ .span delimiter content :: after))
    (retiles : Piece.Tiles again (first ++ .span delimiter other :: after))
    (place : Piece.insidePosition (Text.width (first.flatMap Piece.source)) content = position)
    (replace : Piece.insidePosition (Text.width (first.flatMap Piece.source)) other = position)
    (keyword_eq : (Segment.ofInside delimiter (Text.trim other) position).keyword? =
      (Segment.ofInside delimiter (Text.trim content) position).keyword?)
    (varies : ∀ mark,
      (Segment.ofInside delimiter (Text.trim content) position).mark? config = some mark →
      ∃ reading,
        (Segment.ofInside delimiter (Text.trim other) position).reading? config = some reading ∧
        Mark.Varies literal mark reading)
    (compiled : compile config source = .ok nodes) : Rereads config nodes again literal := by
  obtain ⟨pieces, marks, known, reads, built⟩ := compile_eq_ok_iff_tiles.1 compiled
  obtain rfl : pieces = first ++ .span delimiter content :: after := known.unique tiles
  obtain ⟨before, _, readsFirst, readsBehind, rfl⟩ := Piece.marks?_append_eq_some_iff.1 reads
  obtain ⟨mark, behind, here, readsAfter, rfl⟩ :=
    (Piece.marks?_span_cons_eq_some_iff position).1 readsBehind
  obtain ⟨reading, reread, ⟨build, old, placed, rfl, rfl⟩, forms⟩ := varies mark here
  have solid (value : Value) : (build value).isText = false := by
    obtain ⟨front, back, operands⟩ := placed
    exact Mark.isText_of_operands_ne_nil (by simp [operands])
  cases literal with
  | ok value =>
      have same : (build old).SameForm (build value) := forms _ rfl
      have rereads : Piece.marks? config (first ++ .span delimiter other :: after) =
          some (before ++ build value :: behind) := by
        refine Piece.marks?_append_eq_some_iff.2 ⟨_, _, readsFirst, ?_, rfl⟩
        refine (Piece.marks?_span_cons_eq_some_iff position).2 ⟨_, _, ?_, readsAfter, rfl⟩
        rw [Segment.mark?_of_reading? reread]
        rfl
      obtain ⟨others, rebuilt⟩ := Outline.exists_build_exchange same built
      have walkAgain := walkBody_of_marks (solid value) rereads rebuilt
      rw [← Mark.isCase_eq_of_sameForm same] at walkAgain
      obtain ⟨front, back, operands⟩ := placed
      exact ⟨others, compile_eq_ok_iff_tiles.2 ⟨_, _, retiles, rereads, rebuilt⟩, _, _, _, _,
        walkBody_of_marks (solid old) reads built, walkAgain, same,
        front, old, back, operands old, operands value⟩
  | error failure =>
      rw [compile_of_tiles tiles, ofPieces_span, place] at compiled
      rw [Rereads, compile_of_tiles retiles, ofPieces_span, replace]
      exact ofSegments_eq_error keyword_eq reread compiled

omit again first after delimiter content other position literal in
/-- Every numeral of a source that compiles can be exchanged for any other one. -/
theorem exists_rereads {numeral : Numeral} (compiled : compile config source = .ok nodes)
    (member : numeral ∈ Numeral.ofSource source) :
    ∃ front back, source = front ++ (numeral.text ++ back) ∧
      numeral.position = Text.width front ∧
      ∀ rule text, IsNumeral back rule text →
        Rereads config nodes (front ++ (text ++ back))
          (Numeral.value ⟨rule, text, numeral.position⟩) := by
  obtain ⟨pieces, marks, tiles, reads, built⟩ := compile_eq_ok_iff_tiles.1 compiled
  rw [Numeral.ofSource, Segment.scan, Piece.scan_of_tiles tiles] at member
  obtain ⟨segment, inPieces, inside⟩ := List.mem_flatMap.1 member
  obtain ⟨first, delimiter, content, after, rfl, rfl⟩ :=
    Segment.exists_span_of_mem_ofPieces inPieces inside
  rw [Nat.zero_add] at inside
  obtain ⟨wellFormed, second, whole, tilesFirst, unbraced, tilesAfter⟩ := tiles.exists_around
  obtain ⟨_, _, _, readsBehind, -⟩ := Piece.marks?_append_eq_some_iff.1 reads
  obtain ⟨mark, _, here, -, -⟩ := (Piece.marks?_span_cons_eq_some_iff _).1 readsBehind
  obtain ⟨front, back, trimmed, varies⟩ := Segment.exists_of_mem_numerals inside here
  obtain ⟨leading, trailing, rfl, blank, exchanges⟩ :=
    Piece.exists_exchange wellFormed trimmed varies.isNumeral varies.leads
  have position_eq := (exchanges _ _ varies.isNumeral).2.2
  refine ⟨first.flatMap Piece.source ++ (delimiter.opening ++ (leading ++ front)),
    back ++ (trailing ++ (delimiter.closing ++ second)), ?_, ?_, fun rule text numeral => ?_⟩
  · rw [whole]
    simp [Piece.source, Piece.enclose]
  · rw [varies.position_eq, position_eq]
    simp only [Text.width_append, Delimiter.width_opening]
    omega
  · have numeral := numeral.of_append (Delimiter.isInnerChar_of_head?_closing blank)
    obtain ⟨reformed, retrimmed, replace⟩ := exchanges rule text numeral
    obtain ⟨reading, reread, markVaries⟩ := varies.varies rule text numeral
    have retiles := tilesFirst.between tilesAfter reformed (by simp [Piece.isText]) unbraced
    have same : first.flatMap Piece.source ++ (delimiter.opening ++ (leading ++ front)) ++
        (text ++ (back ++ (trailing ++ (delimiter.closing ++ second)))) =
          first.flatMap Piece.source ++
            ((Piece.span delimiter (leading ++ (front ++ (text ++ back)) ++ trailing)).source ++
              second) := by
      simp [Piece.source, Piece.enclose]
    rw [same]
    refine rereads_of_tiles tiles retiles rfl ((replace _).trans (position_eq _).symm) ?_
      (fun other there => ?_) compiled
    · rw [retrimmed, trimmed]
      exact Segment.keyword?_ofInside varies.leads _ _ _
    · obtain rfl := Option.some.inj (here.symm.trans there)
      rw [retrimmed]
      exact ⟨reading, reread, markVaries⟩

end

end Node

end Stencil
