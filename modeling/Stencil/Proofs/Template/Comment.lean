import Stencil.Proofs.Node.Compilation
import Stencil.Proofs.Piece.Body
import Stencil.Proofs.Segment.Concatenation

/-!
# Comments

A comment leaves nothing of itself behind: the source around it has the segments
that it has without the comment, as long as comments open and close in pairs in
the text between the tags.
-/

namespace Stencil

namespace Quotation

variable (note : List Char)

/-- The inside of the tag that opens a comment and goes on with a note. -/
def commentHeading : List Char :=
  opener .comment ++ ' ' :: note

theorem ofTag?_pad_commentHeading : ofTag? (Delimiter.pad (commentHeading note)) = some .comment := by
  have trimmed : Text.trimStart (Delimiter.pad (commentHeading note)) =
      opener .comment ++ ' ' :: (note ++ [' ']) :=
    rfl
  have word : Text.firstWord (Delimiter.pad (commentHeading note)) = opener .comment := by
    rw [Text.firstWord, trimmed]
    exact (Text.span_word (fun _ => isBlank_of_mem_opener) (by simp [Text.isBlank])).1
  have longer : Text.trim (Delimiter.pad (commentHeading note)) ≠ opener .raw := by
    intro same
    obtain ⟨trailing, whole, -⟩ := Text.exists_trimEnd_append
      (Text.trimStart (Delimiter.pad (commentHeading note)))
    rw [← Text.trim, same, trimmed] at whole
    simp [opener] at whole
  rw [ofTag?, if_neg longer, if_pos word]

variable {note}

/-- A text whose words open and close comments in pairs may be put into a comment. -/
theorem wellFormed_comment {text : List Char} (free : ¬ Delimiter.block.closing <:+: note)
    (balanced : Balanced (firstWords text)) :
    (Quotation.comment.piece (commentHeading note) text).WellFormed := by
  have foreign : ' ' ∉ Delimiter.block.closing := Delimiter.space_not_mem_closing .block
  have solid : Delimiter.block.closing ≠ [] := Delimiter.closing_ne_nil .block
  refine wellFormed_piece ?_ (ofTag?_pad_commentHeading note) (balanced.foldlM_depthAfter 0)
  rw [commentHeading, Text.infix_append_cons_iff foreign solid, not_or]
  exact ⟨by decide, free⟩

/-- A text in a comment opens and closes comments in pairs when it does so by itself. -/
theorem Balanced.enclose {text : List Char} (balanced : Balanced (firstWords text)) :
    Balanced (firstWords ("{% comment %}".toList ++ (text ++ "{% endcomment %}".toList))) := by
  have opened (rest : List Char) :
      firstWords ("{% comment %}".toList ++ rest) = opener .comment :: firstWords rest :=
    rfl
  have ended : firstWords "{% endcomment %}".toList = [closer .comment] := by decide
  have parts : (firstWords (text ++ "{% endcomment %}".toList)).foldlM (depthAfter .comment) 1 =
      (firstWords text).foldlM (depthAfter .comment) 1 >>=
        (firstWords "{% endcomment %}".toList).foldlM (depthAfter .comment) :=
    foldlM_firstWords_append_brace .comment 1 text "{% endcomment %}".toList.tail
  rw [balanced_iff, opened, List.foldlM_cons]
  calc
    (firstWords (text ++ "{% endcomment %}".toList)).foldlM (depthAfter .comment) 1
    _ = some 1 >>= [closer .comment].foldlM (depthAfter .comment) := by
      rw [parts, balanced.foldlM_depthAfter 1, ended]
    _ = some 0 := rfl

end Quotation

namespace Node

/-- Where the last of some segments stand does not show in what they are put together to. -/
theorem ofSegments_append_shift {config : Config} {segments others : List Segment} {offset : Nat}
    {nodes : List Node} :
    ofSegments config (segments ++ others.map (Segment.shift offset)) = .ok nodes ↔
      ofSegments config (segments ++ others) = .ok nodes := by
  have shown : (segments ++ others.map (Segment.shift offset)).map Segment.shown =
      (segments ++ others).map Segment.shown := by
    simp
  rw [← Except.toOption_eq_some_iff, ← Except.toOption_eq_some_iff,
    toOption_ofSegments_congr config shown]

end Node

namespace Template

theorem compile_eq_ok_iff_of_scan {config : Config} {source : String} {segments : List Segment}
    {template : Template} (scanned : Segment.scan source.toList = .ok segments) :
    compile config source = .ok template ↔
      Node.ofSegments config segments = .ok template.nodes ∧ template.config = config := by
  rw [compile_eq_ok_iff, Node.compile, scanned]
  rfl

/-- A text in a comment, with a note in the tag that opens it. -/
def commentOut (note text : String) : String :=
  "\x7b% comment " ++ note ++ " %\x7d" ++ text ++ "{% endcomment %}"

theorem toList_commentOut (note text : String) :
    (commentOut note text).toList =
      (Quotation.comment.piece (Quotation.commentHeading note.toList) text.toList).source := by
  simp only [commentOut, String.toList_append, Quotation.piece, Piece.source, Piece.enclose,
    Delimiter.pad, Quotation.commentHeading, List.append_assoc, List.cons_append]
  rfl

/-- A text in a number of comments, one in the other. -/
def nestComments (text : String) : Nat → String
  | 0 => text
  | depth + 1 => "{% comment %}" ++ (nestComments text depth ++ "{% endcomment %}")

theorem balanced_nestComments {text : String}
    (balanced : Quotation.Balanced (Quotation.firstWords text.toList)) (depth : Nat) :
    Quotation.Balanced (Quotation.firstWords (nestComments text depth).toList) := by
  induction depth with
  | zero => exact balanced
  | succ depth ih =>
      rw [nestComments, String.toList_append, String.toList_append]
      exact ih.enclose

/--
Comments are invisible.  Between two sources that fall into segments, a comment
adds no segment, and only moves those behind it by the bytes in front of them;
what the three together compile to does not depend on the note in its tag or on
the text in it.

The words behind the block delimiters of the text must open and close comments
in pairs.  A word ends at a blank or at the end of a tag: one that the text
breaks off goes on with the tag that closes the comment, so it is no such word.
This holds again of the text in any number of comments of its own.
-/
theorem scan_commentOut_between {note text first second : String}
    {segments others : List Segment}
    (free : ¬ Delimiter.block.closing <:+: note.toList)
    (balanced : Quotation.Balanced (Quotation.firstWords text.toList))
    (scanned : Segment.scan first.toList = .ok segments)
    (following : Segment.scan second.toList = .ok others)
    (unbraced : first.toList.getLast? ≠ some '{') :
    Segment.scan (first ++ commentOut note text ++ second).toList =
        .ok (segments ++
          others.map (Segment.shift (Text.width (first ++ commentOut note text).toList))) ∧
      (∀ config template,
        compile config (first ++ commentOut note text ++ second) = .ok template ↔
          Node.ofSegments config (segments ++ others) = .ok template.nodes ∧
            template.config = config) ∧
      ∀ depth, Quotation.Balanced (Quotation.firstWords (nestComments text depth).toList) := by
  have wellFormed := Quotation.wellFormed_comment free balanced
  have whole : Segment.scan (first ++ commentOut note text ++ second).toList =
      .ok (segments ++
        others.map (Segment.shift (Text.width (first ++ commentOut note text).toList))) := by
    rw [String.toList_append, String.toList_append, toList_commentOut]
    exact Segment.scan_between scanned following wellFormed rfl unbraced
  refine ⟨whole, fun config template => ?_, balanced_nestComments balanced⟩
  rw [compile_eq_ok_iff_of_scan whole, Node.ofSegments_append_shift]

/-- A closing tag in the note, and one that the text breaks off, do not close the comment. -/
theorem scan_commentOut_between_unclosed :
    let note := "\x7b% endcomment \x7b\x7b"
    let text := "{% comment %}{% raw %}\x7b\x7b y \x7b% z {% endcomment %}\x7b% endcomment"
    let segments : List Segment := [.text ['é'], .output ['x'] 5]
    let others : List Segment := [.text ['}', '}'], .output ['y'] 5]
    Segment.scan ("é{{ x }}" ++ commentOut note text ++ "\x7d\x7d{{ y }}").toList =
        .ok (segments ++ [.text ['}', '}'], .output ['y'] 121]) ∧
      (∀ config template,
        compile config ("é{{ x }}" ++ commentOut note text ++ "\x7d\x7d{{ y }}") = .ok template ↔
          Node.ofSegments config (segments ++ others) = .ok template.nodes ∧
            template.config = config) ∧
      ∀ depth, Quotation.Balanced (Quotation.firstWords (nestComments text depth).toList) := by
  intro note text segments others
  have moved : others.map (Segment.shift
      (Text.width ("é{{ x }}" ++ commentOut note text).toList)) =
        [.text ['}', '}'], .output ['y'] 121] := by
    decide +kernel
  rw [← moved]
  exact @scan_commentOut_between note text "é{{ x }}" "\x7d\x7d{{ y }}" segments others
    (by decide +kernel) (by decide +kernel) (by decide +kernel) (by decide +kernel) (by decide)

/--
A text that opens a comment and breaks off the word that would close it.  With
this word its comments are in pairs, but in a comment the word goes on with the
closing tag, so that nothing closes the outer one.
-/
theorem scan_commentOut_brokenOff :
    let text := "{% comment %}\x7b% endcomment"
    Quotation.Balanced (Quotation.begunWords text.toList) ∧
      ¬ Delimiter.block.closing <:+: "".toList ∧ Segment.scan "".toList = .ok [] ∧
      Segment.scan ("" ++ commentOut "" text ++ "").toList =
        .error ⟨.unclosed .comment, 3⟩ := by
  decide +kernel

end Template

end Stencil
