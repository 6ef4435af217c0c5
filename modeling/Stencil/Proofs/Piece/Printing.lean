import Stencil.Proofs.Node.Compilation
import Stencil.Proofs.Syntax.Reading

/-!
# Printing marks

Each mark is written as a piece of its own, which says the mark again wherever
it stands.
-/

namespace Stencil

open Grammar (isName)

/-! ## Tags -/

namespace BlockKind

theorem named_opener : ∀ kind : BlockKind,
    isName kind.opener.toList ∧ kind.opener ≠ "raw" ∧ kind.opener ≠ "comment" := by
  decide

theorem named_closer : ∀ kind : BlockKind,
    isName kind.closer.toList ∧ kind.closer ≠ "raw" ∧ kind.closer ≠ "comment" := by
  decide

end BlockKind

namespace Tag

/-- The inside of a tag: its keyword, and what follows it behind a blank. -/
def printInside (keyword : String) (arguments : List Char) : List Char :=
  if arguments.isEmpty then keyword.toList else keyword.toList ++ ([' '] ++ arguments)

/-- The keyword of a tag that begins no quotation, and what may follow it. -/
structure Printable (keyword : String) (arguments : List Char) : Prop where
  holds : Delimiter.block.Holds keyword.toList
  solid : ∀ char ∈ keyword.toList, Text.isBlank char = false
  arguments : arguments = [] ∨ Delimiter.block.Holds arguments
  unquoted : keyword ≠ "raw" ∧ keyword ≠ "comment"

theorem printable_of_name {keyword : String} {arguments : List Char}
    (known : isName keyword.toList ∧ keyword ≠ "raw" ∧ keyword ≠ "comment")
    (holds : arguments = [] ∨ Delimiter.block.Holds arguments) : Printable keyword arguments where
  holds := holds_name known.1
  solid := fun char member =>
    Grammar.isBlank_of_isIdentChar (Grammar.isIdentChar_of_mem_name known.1 char member)
  arguments := holds
  unquoted := known.2

namespace Printable

variable {keyword : String} {arguments : List Char} (printable : Printable keyword arguments)

include printable

theorem holds_inside : Delimiter.block.Holds (printInside keyword arguments) := by
  unfold printInside
  split
  · exact printable.holds
  · next given =>
      have holds := printable.arguments.resolve_left (by simpa using given)
      exact printable.holds.append holds rfl (by simp)

/-- The keyword and what follows it are found again. -/
theorem span_inside (rest : List Char)
    (ends : ∀ char, rest.head? = some char → Text.isBlank char = true) :
    Text.untilBlank (printInside keyword arguments ++ rest) = keyword.toList ∧
      Text.trimStart (Text.fromBlank (printInside keyword arguments ++ rest)) =
        Text.trimStart (arguments ++ rest) := by
  unfold printInside
  split
  · next empty =>
      obtain ⟨word, behind⟩ := Text.span_word printable.solid ends
      rw [word, behind, List.isEmpty_iff.1 empty, List.nil_append]
      exact ⟨rfl, rfl⟩
  · rw [List.append_assoc]
    have blank : ∀ char, (([' '] ++ arguments) ++ rest).head? = some char →
        Text.isBlank char = true := by
      simp [Text.isBlank]
    obtain ⟨word, behind⟩ := Text.span_word printable.solid blank
    rw [word, behind, List.append_assoc, Text.trimStart_append_of_blank Text.isBlank_of_mem_space]
    exact ⟨rfl, rfl⟩

theorem ofInside_inside :
    ∃ position, ofInside (printInside keyword arguments) 0 =
      ⟨keyword, 0, ⟨arguments, position⟩⟩ := by
  obtain ⟨word, behind⟩ := printable.span_inside [] (by simp)
  have kept : Text.trimStart arguments = arguments := by
    rcases printable.arguments with rfl | holds
    · rfl
    · obtain ⟨char, chars, rfl, solid⟩ := holds.exists_cons
      exact Text.trimStart_cons_of_not_blank solid chars
  rw [List.append_nil] at word
  rw [List.append_nil, List.append_nil, kept] at behind
  exact ⟨_, by rw [ofInside, word, behind, String.ofList_toList]⟩

theorem ofTag?_inside :
    Quotation.ofTag? (Delimiter.pad (printInside keyword arguments)) = none := by
  have inside := printable.holds_inside
  have notRaw : printInside keyword arguments ≠ Quotation.raw.opener := by
    intro same
    obtain ⟨word, -⟩ := printable.span_inside [] (by simp)
    rw [same] at word
    exact printable.unquoted.1 (String.toList_inj.1 word.symm)
  have notComment : Text.firstWord (Delimiter.pad (printInside keyword arguments)) ≠
      Quotation.comment.opener := by
    obtain ⟨word, -⟩ := printable.span_inside [' '] (by simp [Text.isBlank])
    rw [Text.firstWord, inside.trimStart_pad, word]
    exact fun same => printable.unquoted.2 (String.toList_inj.1 same)
  rw [Quotation.ofTag?, inside.trim_pad, if_neg notRaw, if_neg notComment]

end Printable

end Tag

/-! ## Marks -/

namespace Piece

/-- A tag with a keyword. -/
def tag (keyword : String) (arguments : List Char) : Piece :=
  .span .block (Delimiter.pad (Tag.printInside keyword arguments))

/-- A piece is found where it stands, and says what a mark says. -/
structure Denotes (config : Config) (piece : Piece) (mark : Mark) : Prop where
  wellFormed : piece.WellFormed
  shown : piece.shown?.bind (Mark.ofShown? config) = some mark

/-- The segment of a piece says what the piece does. -/
theorem Denotes.exists_ofPiece {config : Config} {piece : Piece} {mark : Mark}
    (denotes : piece.Denotes config mark) (position : Nat) :
    ∃ segment, Segment.ofPiece position piece = [segment] ∧
      segment.mark? config = some mark := by
  obtain ⟨shown, shows, meaning⟩ := Option.bind_eq_some_iff.1 denotes.shown
  have single := Segment.shown_ofPiece position piece
  rw [shows, Option.toList_some, List.map_eq_singleton_iff] at single
  obtain ⟨segment, same, rfl⟩ := single
  exact ⟨segment, same, by rw [Segment.mark?_eq_ofShown?, meaning]⟩

theorem denotes_tag {config : Config} {keyword : String} {arguments : List Char} {mark : Mark}
    (printable : Tag.Printable keyword arguments)
    (reads : ∀ position, Tag.mark? config ⟨keyword, 0, ⟨arguments, position⟩⟩ = some mark) :
    (tag keyword arguments).Denotes config mark where
  wellFormed := ⟨printable.holds_inside.closedBy_pad, fun _ => printable.ofTag?_inside⟩
  shown := by
    obtain ⟨position, same⟩ := printable.ofInside_inside
    have inside := printable.holds_inside.trim_pad
    rw [tag, shown?, inside, Option.bind_some]
    change (Tag.ofInside (Tag.printInside keyword arguments) 0).mark? config = some mark
    rw [same, reads position]

end Piece

/-- A tag that is registered under one word, and accepts its markup. -/
structure CustomTag.Printable (config : Config) (name markup : String) : Prop where
  accepted : ∃ custom, config.tag? name = some custom ∧ custom.validate markup = .ok ()
  word : name ≠ "" ∧ ∀ char ∈ name.toList, Text.isBlank char = false
  trimmed : Text.trim markup.toList = markup.toList
  free : ¬ Delimiter.block.closing <:+: name.toList ∧ ¬ Delimiter.block.closing <:+: markup.toList

namespace Mark

/-- The piece that a mark is written as. -/
def piece : Mark → Piece
  | .text content => .text content.toList
  | .output value => .span .output (Delimiter.pad value.print)
  | .assign name value => .tag "assign" (name.toList ++ ([' ', '=', ' '] ++ value.print))
  | .custom name markup => .tag name markup.toList
  | .ifTag negated condition => .tag (BlockKind.conditional negated).opener condition.print
  | .caseTag subject => .tag BlockKind.switch.opener subject.print
  | .captureTag name => .tag BlockKind.capture.opener name.toList
  | .elseIf condition => .tag "elsif" condition.print
  | .elseTag => .tag "else" []
  | .whenTag values => .tag "when" (Expr.printValues values)
  | .closing kind => .tag kind.closer []

/-- The marks that can be written. -/
def Printable (config : Config) : Mark → Prop
  | .text content =>
      content ≠ "" ∧ Piece.Plain content.toList ∧ content.toList.getLast? ≠ some '{'
  | .output value => value.Printable config .output
  | .assign name value => isName name.toList ∧ value.Printable config .block
  | .custom name markup => CustomTag.Printable config name markup
  | .ifTag _ condition | .elseIf condition => condition.IsCondition .block
  | .caseTag subject => subject.IsPrimary .block
  | .captureTag name => isName name.toList
  | .whenTag values => values ≠ [] ∧ ∀ value ∈ values, value.IsPrimary .block
  | .elseTag | .closing _ => True

theorem CustomTag.Printable.denotes {config : Config} {name markup : String}
    (printable : CustomTag.Printable config name markup) :
    (Piece.tag name markup.toList).Denotes config (.custom name markup) := by
  obtain ⟨⟨custom, registered, accepts⟩, ⟨nonempty, solid⟩, trimmed, nameFree, markupFree⟩ :=
    printable
  have unreserved := config.not_mem_reservedTags registered
  simp only [Config.reservedTags, List.mem_cons, not_or] at unreserved
  have holds : Delimiter.block.Holds name.toList :=
    Delimiter.holds_of_solid (by simpa using nonempty) solid nameFree
  have arguments : markup.toList = [] ∨ Delimiter.block.Holds markup.toList := by
    by_cases empty : markup.toList = []
    · exact .inl empty
    · exact .inr (Delimiter.holds_of_trim empty trimmed markupFree)
  refine Piece.denotes_tag ⟨holds, solid, arguments, by tauto⟩ fun position => ?_
  have bears : Tag.Bears config ⟨name, 0, ⟨markup.toList, position⟩⟩
      (.custom name (String.ofList markup.toList)) :=
    .custom nonempty registered (by rwa [String.ofList_toList])
  rw [String.ofList_toList] at bears
  exact bears.mark?_eq

theorem Printable.denotes {config : Config} {mark : Mark} (printable : mark.Printable config) :
    mark.piece.Denotes config mark := by
  cases mark with
  | text content =>
      obtain ⟨nonempty, plain, -⟩ := printable
      refine ⟨⟨by simpa using nonempty, plain⟩, ?_⟩
      simp [piece, Piece.shown?, ofShown?]
  | output value =>
      have holds := Output.Printable.holds printable
      refine ⟨⟨holds.closedBy_pad, by simp⟩, ?_⟩
      have reads := TagInside.output_print printable 0
      simp [piece, Piece.shown?, ofShown?, holds.trim_pad, Segment.mark?, reads]
  | assign name value =>
      obtain ⟨named, isOutput⟩ := printable
      have holds := @Delimiter.Holds.append _ _ _ [' ', '=', ' '] (holds_name named)
        isOutput.holds rfl (by simp)
      have reads := TagInside.assignment_print named isOutput
      refine Piece.denotes_tag (Tag.printable_of_name (by decide) (.inr holds)) fun position => ?_
      exact Tag.Bears.mark?_eq (.assign rfl (reads position))
  | custom name markup => exact CustomTag.Printable.denotes printable
  | ifTag negated condition =>
      have holds := Expr.IsCondition.holds printable
      have reads := TagInside.condition_print printable
      have named := BlockKind.named_opener (.conditional negated)
      refine Piece.denotes_tag (Tag.printable_of_name named (.inr holds)) fun position => ?_
      exact Tag.Bears.mark?_eq (.ifTag rfl (reads position))
  | caseTag subject =>
      have holds := Expr.IsPrimary.holds printable
      have reads := TagInside.subject_print printable
      refine Piece.denotes_tag (Tag.printable_of_name (by decide) (.inr holds)) fun position => ?_
      exact Tag.Bears.mark?_eq (.caseTag rfl (reads position))
  | captureTag name =>
      have holds : Delimiter.block.Holds name.toList := holds_name printable
      have reads := TagInside.captureName_print printable
      refine Piece.denotes_tag (Tag.printable_of_name (by decide) (.inr holds)) fun position => ?_
      exact Tag.Bears.mark?_eq (.captureTag rfl (reads position))
  | elseIf condition =>
      have holds := Expr.IsCondition.holds printable
      have reads := TagInside.condition_print printable
      refine Piece.denotes_tag (Tag.printable_of_name (by decide) (.inr holds)) fun position => ?_
      exact Tag.Bears.mark?_eq (.elseIf (.inr rfl) (reads position))
  | elseTag =>
      refine Piece.denotes_tag (Tag.printable_of_name (by decide) (.inl rfl)) fun position => ?_
      exact Tag.Bears.mark?_eq (.elseTag rfl rfl)
  | whenTag values =>
      obtain ⟨nonempty, primaries⟩ := printable
      have holds := Expr.holds_printValues nonempty primaries
      have reads := TagInside.values_print nonempty primaries
      refine Piece.denotes_tag (Tag.printable_of_name (by decide) (.inr holds)) fun position => ?_
      exact Tag.Bears.mark?_eq (.whenTag rfl (reads position))
  | closing kind =>
      have named := BlockKind.named_closer kind
      refine Piece.denotes_tag (Tag.printable_of_name named (.inl rfl)) fun position => ?_
      exact Tag.Bears.mark?_eq (.closing rfl rfl)

/-- The source of marks. -/
def print (marks : List Mark) : List Char :=
  (marks.map piece).flatMap Piece.source

/-- No text is followed by another one. -/
def Separated (marks : List Mark) : Prop :=
  marks.IsChain fun first second => ¬ (first.isText ∧ second.isText)

theorem opens?_source {mark : Mark} (tag : mark.isText = false) (rest : List Char) :
    (Delimiter.opens? (mark.piece.source ++ rest)).isSome := by
  cases mark <;> first | rfl | cases tag

theorem endsBefore_print {config : Config} {mark : Mark} {marks : List Mark}
    (printable : mark.Printable config) (separated : Separated (mark :: marks)) :
    mark.piece.EndsBefore (print marks) := by
  cases mark with
  | text content =>
      cases marks with
      | nil => exact .inl rfl
      | cons next marks =>
          have tag : next.isText = false := by
            have apart := (List.isChain_cons_cons.1 separated).1
            simpa [isText] using apart
          exact .inr ⟨opens?_source tag (print marks), printable.2.2⟩
  | _ => trivial

theorem tiles_print {config : Config} {marks : List Mark}
    (printable : ∀ mark ∈ marks, mark.Printable config) (separated : Separated marks) :
    Piece.Tiles (print marks) (marks.map piece) := by
  induction marks with
  | nil => exact .nil
  | cons mark marks ih =>
      obtain ⟨here, later⟩ := List.forall_mem_cons.1 printable
      exact .cons here.denotes.wellFormed (endsBefore_print here separated)
        (ih later separated.tail)

theorem marks?_map_piece {config : Config} {marks : List Mark}
    (printable : ∀ mark ∈ marks, mark.Printable config) :
    Piece.marks? config (marks.map piece) = some marks := by
  induction marks with
  | nil => rfl
  | cons mark marks ih =>
      obtain ⟨here, later⟩ := List.forall_mem_cons.1 printable
      obtain ⟨shown, shows, meaning⟩ := Option.bind_eq_some_iff.1 here.denotes.shown
      have more := ih later
      unfold Piece.marks? at more ⊢
      rw [List.map_cons, List.filterMap_cons_some shows, List.mapM_cons, meaning, more]
      rfl

end Mark

end Stencil
