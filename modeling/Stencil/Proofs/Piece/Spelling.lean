import Stencil.Proofs.Piece.Printing
import Stencil.Proofs.Segment.Concatenation

/-!
# Sources that spell marks

A source spells the marks that its pieces say.  A tag between two sources is
spelled where it stands, unless a brace before it begins another delimiter.
-/

namespace Stencil

namespace Mark

/-- A source falls into pieces that say marks one by one. -/
def Spelled (config : Config) (source : List Char) (marks : List Mark) : Prop :=
  ∃ pieces, Piece.Tiles source pieces ∧ Piece.marks? config pieces = some marks

namespace Spelled

variable {config : Config} {first second : List Char} {marks others : List Mark}

theorem nil : Spelled config [] [] :=
  ⟨[], .nil, rfl⟩

/-- A tag or an output between two sources. -/
theorem between {piece : Piece} {mark : Mark} (spelled : Spelled config first marks)
    (denotes : piece.Denotes config mark) (solid : ¬ piece.isText)
    (following : Spelled config second others) (unbraced : first.getLast? ≠ some '{') :
    Spelled config (first ++ (piece.source ++ second)) (marks ++ mark :: others) := by
  obtain ⟨pieces, tiles, read⟩ := spelled
  obtain ⟨behind, tilesBehind, readBehind⟩ := following
  refine ⟨_, tiles.between tilesBehind denotes.wellFormed solid unbraced,
    Piece.marks?_append_eq_some_iff.2 ⟨marks, mark :: others, read, ?_, rfl⟩⟩
  obtain ⟨shown, shows, meaning⟩ := Option.bind_eq_some_iff.1 denotes.shown
  unfold Piece.marks? at readBehind ⊢
  rw [List.filterMap_cons_some shows, List.mapM_cons, meaning, readBehind]
  rfl

theorem cons {piece : Piece} {mark : Mark} (denotes : piece.Denotes config mark)
    (solid : ¬ piece.isText) (following : Spelled config second others) :
    Spelled config (piece.source ++ second) (mark :: others) :=
  between nil denotes solid following (by simp)

end Spelled

end Mark

namespace Node

theorem compile_eq_ok_iff_spelled {config : Config} {source : List Char} {nodes : List Node} :
    compile config source = .ok nodes ↔
      ∃ marks, Mark.Spelled config source marks ∧ Outline.build marks = some nodes := by
  rw [compile_eq_ok_iff_tiles, exists_comm]
  simp only [Mark.Spelled, exists_and_right, ← and_assoc]

end Node

/-- A source that is put together from pieces compiles to what their marks build. -/
theorem Template.compile_of_spelled {config : Config} {source : String} {text : List Char}
    {marks : List Mark} {nodes : List Node} (same : source.toList = text)
    (spelled : Mark.Spelled config text marks) (built : Outline.build marks = some nodes) :
    compile config source = .ok ⟨nodes, config⟩ := by
  refine compile_eq_ok_iff.2 ⟨?_, rfl⟩
  rw [same, Node.compile_eq_ok_iff_spelled]
  exact ⟨marks, spelled, built⟩

end Stencil
