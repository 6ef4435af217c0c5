import Stencil.Proofs.Block.Simulation
import Stencil.Proofs.Segment.Decomposition
import Stencil.Proofs.Syntax.Position
import Stencil.Template

/-!
# Compilation without positions

A source compiles to what its pieces show: each piece is read on its own,
wherever it stands, and the marks that come of it are put together.
-/

namespace Stencil

namespace Tag

theorem mark?_ofInside (config : Config) (inner : List Char) (position other : Nat) :
    (ofInside inner position).mark? config = (ofInside inner other).mark? config := by
  unfold mark? ofInside alone? custom?
  dsimp only
  rw [(TagInside.alike_condition _ (other + Text.width inner - _) _).toOption_eq,
    (TagInside.alike_subject _ (other + Text.width inner - _) _).toOption_eq,
    (TagInside.alike_captureName _ (other + Text.width inner - _) _).toOption_eq,
    (TagInside.alike_assignment _ (other + Text.width inner - _) _ _).toOption_eq,
    (TagInside.alike_values _ (other + Text.width inner - _) _).toOption_eq]

end Tag

namespace Mark

/-- What a piece says that shows an inside. -/
def ofShown? (config : Config) : Option Delimiter × List Char → Option Mark
  | (none, content) => some (.text (String.ofList content))
  | (some .output, inner) => (Segment.output inner 0).mark? config
  | (some .block, inner) => (Segment.block inner 0).mark? config

end Mark

namespace Piece

/-- What pieces say one by one. -/
def marks? (config : Config) (pieces : List Piece) : Option (List Mark) :=
  (pieces.filterMap shown?).mapM (Mark.ofShown? config)

theorem marks?_append_eq_some_iff {config : Config} {first second : List Piece}
    {whole : List Mark} :
    marks? config (first ++ second) = some whole ↔
      ∃ marks others, marks? config first = some marks ∧ marks? config second = some others ∧
        marks ++ others = whole := by
  unfold marks?
  rw [List.filterMap_append, List.mapM_append]
  simp [Option.bind_eq_some_iff]

theorem marks?_text_cons_eq_some_iff {config : Config} {content : List Char}
    {pieces : List Piece} {whole : List Mark} :
    marks? config (.text content :: pieces) = some whole ↔
      ∃ later, marks? config pieces = some later ∧
        .text (String.ofList content) :: later = whole := by
  unfold marks?
  simp [shown?, Mark.ofShown?, Option.bind_eq_some_iff]

end Piece

namespace Segment

theorem mark?_eq_ofShown? (config : Config) (segment : Segment) :
    segment.mark? config = Mark.ofShown? config segment.shown := by
  cases segment with
  | text content => rfl
  | output inner position =>
      simp only [mark?, shown, Mark.ofShown?]
      rw [(TagInside.alike_output position 0 inner _).toOption_eq]
  | block inner position => exact Tag.mark?_ofInside config inner position 0

theorem mapM_mark?_ofPieces (config : Config) (position : Nat) (pieces : List Piece) :
    (ofPieces position pieces).mapM (mark? config) = Piece.marks? config pieces := by
  rw [Piece.marks?, ← shown_ofPieces position, List.mapM_map]
  exact congrArg (List.mapM · _) (funext (mark?_eq_ofShown? config))

end Segment

namespace Node

/-- Where segments stand does not show in what they are put together to. -/
theorem toOption_ofSegments_congr (config : Config) {segments others : List Segment}
    (same : segments.map Segment.shown = others.map Segment.shown) :
    (ofSegments config segments).toOption = (ofSegments config others).toOption := by
  have marks (segments : List Segment) : segments.mapM (Segment.mark? config) =
      (segments.map Segment.shown).mapM (Mark.ofShown? config) := by
    rw [List.mapM_map]
    exact congrArg (List.mapM · _) (funext (Segment.mark?_eq_ofShown? config))
  rw [toOption_ofSegments, toOption_ofSegments, marks, marks, same]

/-- A source compiles to what its pieces show, read one by one and put together. -/
theorem compile_eq_ok_iff_tiles {config : Config} {source : List Char} {nodes : List Node} :
    compile config source = .ok nodes ↔
      ∃ pieces marks, Piece.Tiles source pieces ∧ Piece.marks? config pieces = some marks ∧
        Outline.build marks = some nodes := by
  rw [compile_eq_ok_iff]
  simp only [Segment.scan_eq_ok_iff]
  constructor
  · rintro ⟨_, marks, ⟨pieces, tiles, rfl⟩, read, built⟩
    rw [Segment.mapM_mark?_ofPieces] at read
    exact ⟨pieces, marks, tiles, read, built⟩
  · rintro ⟨pieces, marks, tiles, read, built⟩
    rw [← Segment.mapM_mark?_ofPieces config 0] at read
    exact ⟨_, marks, ⟨pieces, tiles, rfl⟩, read, built⟩

end Node

namespace Template

theorem compile_eq_ok_iff {config : Config} {source : String} {template : Template} :
    compile config source = .ok template ↔
      Node.compile config source.toList = .ok template.nodes ∧ template.config = config := by
  unfold compile
  obtain ⟨nodes, known⟩ := template
  cases Node.compile config source.toList with
  | ok found => simp [eq_comm]
  | error failure => simp

end Template

end Stencil
