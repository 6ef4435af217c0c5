import Stencil.Piece

/-!
# Segments

What compiling a template starts from: the pieces of its source without their
delimiters.  The inside of an output or a tag is trimmed and comes with its
byte position; a raw quotation is text, and a comment is nothing.
-/

namespace Stencil

/-- A text run, or the trimmed inside of an output or a tag with its byte position. -/
inductive Segment
  | text (content : List Char)
  | output (inner : List Char) (position : Nat)
  | block (inner : List Char) (position : Nat)
  deriving DecidableEq

namespace Segment

/-- What a piece that starts at `position` contributes. -/
def ofPiece (position : Nat) : Piece → List Segment
  | .text content => [.text content]
  | .span .output content =>
      [.output (Text.trim content) (Piece.insidePosition position content)]
  | .span .block content =>
      [.block (Text.trim content) (Piece.insidePosition position content)]
  | .quotation .raw _ body _ => if body.isEmpty then [] else [.text body]
  | .quotation .comment _ _ _ => []

/-- The segments of consecutive pieces, the first of which starts at `position`. -/
def ofPieces (position : Nat) : List Piece → List Segment
  | [] => []
  | piece :: pieces =>
      ofPiece position piece ++ ofPieces (position + Text.width piece.source) pieces

def scan (source : List Char) : Except (Located ScanFailure) (List Segment) :=
  (Piece.scan 0 source).map (ofPieces 0)

end Segment

end Stencil
