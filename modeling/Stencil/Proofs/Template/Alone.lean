import Mathlib
import Stencil.Proofs.Node.Compilation
import Stencil.Proofs.Piece.Body
import Stencil.Proofs.Piece.Concatenation

/-!
# Tags that take no arguments

An `else` and the closing tag of a block stand alone in every source that
compiles.  The closing tag of a quotation does not have to: it is known by its
first word, and what follows this word can be exchanged for anything.
-/

namespace Stencil

namespace Tag

/-- The keywords of the tags that take no arguments. -/
def aloneKeywords : List String :=
  ["else", "endif", "endunless", "endcase", "endcapture"]

theorem aloneKeywords_subset : aloneKeywords ⊆ Config.reservedTags := by
  decide

/-- A tag that takes no arguments says something only where it has none. -/
theorem arguments_eq_nil_of_mark? {config : Config} {tag : Tag} {mark : Mark}
    (reads : tag.mark? config = some mark) (keyword : tag.keyword ∈ aloneKeywords) :
    tag.arguments.text = [] := by
  cases bears_of_mark? reads with
  | elseTag key alone | closing key alone => exact alone
  | @ifTag negated condition key read =>
      rw [key] at keyword
      exact absurd keyword (by cases negated <;> decide)
  | caseTag key read | captureTag key read | assign key read | whenTag key read =>
      rw [key] at keyword
      exact absurd keyword (by decide)
  | elseIf key read =>
      rcases key with key | key <;> rw [key] at keyword <;> exact absurd keyword (by decide)
  | custom nonempty registered accepted =>
      exact absurd (aloneKeywords_subset keyword) (config.not_mem_reservedTags registered)

/-- A trimmed inside without arguments is its keyword. -/
theorem keyword_eq_of_arguments {content : List Char} {position : Nat}
    (alone : (ofInside (Text.trim content) position).arguments.text = []) :
    (ofInside (Text.trim content) position).keyword.toList = Text.trim content := by
  have blank : ∀ char ∈ Text.fromBlank (Text.trim content), Text.isBlank char = true :=
    List.dropWhile_eq_nil_iff.1 alone
  have split : Text.untilBlank (Text.trim content) ++ Text.fromBlank (Text.trim content) =
      Text.trim content := List.takeWhile_append_dropWhile
  rw [ofInside, String.toList_ofList]
  by_cases rest : Text.fromBlank (Text.trim content) = []
  · rwa [rest, List.append_nil] at split
  · -- The blanks behind the keyword would end the inside, which does not end in a blank.
    have nonempty : Text.trim content ≠ [] := by
      rw [← split]
      exact List.append_ne_nil_of_right_ne_nil _ rest
    obtain ⟨-, last, ends, solid⟩ := Text.exists_ends_trim nonempty
    rw [← split, List.getLast?_append_of_ne_nil _ rest] at ends
    rw [blank last (List.mem_of_getLast? ends)] at solid
    cases solid

end Tag

namespace Quotation

/-- Whether a body goes up to a closing tag does not depend on what follows the word of the tag. -/
theorem Whole.reclose {kind : Quotation} {depth : Nat} {body closing another : List Char}
    (whole : kind.Whole depth body closing)
    (closed : Text.ClosedBy Delimiter.block.closing another)
    (word : Text.firstWord another = kind.closer) : kind.Whole depth body another where
  closed
  word
  depth_eq := by rw [foldlM_tagWords, ← foldlM_tagWords kind depth body closing, whole.depth_eq]

end Quotation

namespace Piece

/-- A tag that takes no arguments has nothing behind its keyword. -/
def StandsAlone : Piece → Prop
  | .span .block content => ∀ keyword ∈ Tag.aloneKeywords,
      Text.firstWord content = keyword.toList → Text.trim content = keyword.toList
  | .quotation kind _ _ closing => Text.trim closing = kind.closer
  | .text _ | .span .output _ => True

def isQuotation : Piece → Bool
  | .quotation _ _ _ _ => true
  | _ => false

/-- A piece that is the same up to what follows the word of the closing tag of a quotation. -/
inductive Reclosed : Piece → Piece → Prop
  | refl (piece : Piece) : Reclosed piece piece
  | quotation {kind : Quotation} {content body closing another : List Char}
      (closed : Text.ClosedBy Delimiter.block.closing another)
      (word : Text.firstWord another = kind.closer) :
      Reclosed (.quotation kind content body closing) (.quotation kind content body another)

namespace Reclosed

variable {piece other : Piece} (reclosed : Reclosed piece other)

include reclosed

theorem wellFormed (known : piece.WellFormed) : other.WellFormed := by
  cases reclosed with
  | refl => exact known
  | quotation closed word => exact ⟨known.1, known.2.1, known.2.2.reclose closed word⟩

theorem shown?_eq : piece.shown? = other.shown? := by
  cases reclosed with
  | refl => rfl
  | @quotation kind content body closing another closed word => cases kind <;> rfl

theorem isText_eq : piece.isText = other.isText := by
  cases reclosed <;> rfl

end Reclosed

theorem opens?_of_not_isText {piece : Piece} (solid : ¬ piece.isText) (rest : List Char) :
    (Delimiter.opens? (piece.source ++ rest)).isSome := by
  cases piece with
  | text content => exact absurd rfl solid
  | span delimiter content => simp [source, enclose]
  | quotation kind content body closing => simp [source, enclose]

theorem Tiles.not_isText_of_opens? {piece : Piece} {pieces : List Piece} {source : List Char}
    (tiles : Tiles source (piece :: pieces)) (opens : (Delimiter.opens? source).isSome) :
    ¬ piece.isText := by
  cases tiles with
  | cons wellFormed ends tiles =>
      cases piece with
      | text content =>
          obtain ⟨nonempty, plain⟩ := wellFormed
          obtain ⟨char, content, rfl⟩ := List.exists_cons_of_ne_nil nonempty
          rw [Piece.source, List.cons_append, opens?_append_of_plain plain ends] at opens
          cases opens
      | span delimiter content => exact Bool.false_ne_true
      | quotation kind content body closing => exact Bool.false_ne_true

/-- Pieces with other closing tags are the pieces of a source. -/
theorem Tiles.reclose {source : List Char} {pieces others : List Piece}
    (tiles : Tiles source pieces) (reclosed : List.Forall₂ Reclosed pieces others) :
    Tiles (others.flatMap Piece.source) others := by
  induction tiles generalizing others with
  | nil =>
      cases reclosed
      exact .nil
  | @cons piece rest pieces wellFormed ends tiles ih =>
      cases reclosed with
      | @cons _ other _ others here later =>
          rw [List.flatMap_cons]
          refine .cons (here.wellFormed wellFormed) ?_ (ih later)
          cases here with
          | quotation closed word => trivial
          | refl =>
              cases piece with
              | span delimiter content => trivial
              | quotation kind content body closing => trivial
              | text content =>
                  -- What stood behind the text run begins as it did before.
                  rcases ends with rfl | ⟨opens, last⟩
                  · obtain rfl := tiles.eq_nil
                    cases later
                    exact .inl rfl
                  · cases later with
                    | nil =>
                        cases tiles
                        cases opens
                    | @cons next another _ _ first _ =>
                        have solid := tiles.not_isText_of_opens? opens
                        rw [first.isText_eq] at solid
                        exact .inr ⟨opens?_of_not_isText solid _, last⟩

/-- What pieces say is said by each span among them. -/
theorem exists_mark?_of_marks? {config : Config} {pieces : List Piece} {marks : List Mark}
    (reads : marks? config pieces = some marks) {content : List Char}
    (member : .span .block content ∈ pieces) :
    ∃ mark, (Tag.ofInside (Text.trim content) 0).mark? config = some mark := by
  obtain ⟨before, after, rfl⟩ := List.append_of_mem member
  obtain ⟨_, later, -, reads, -⟩ := marks?_append_eq_some_iff.1 reads
  have shows : (span .block content).shown? = some (some .block, Text.trim content) := rfl
  rw [marks?, List.filterMap_cons_some shows, List.mapM_cons] at reads
  obtain ⟨mark, here, -⟩ := Option.bind_eq_some_iff.1 reads
  exact ⟨mark, here⟩

/-- Pieces that say something stand alone, apart from the closing tags of quotations. -/
theorem standsAlone_of_marks? {config : Config} {pieces : List Piece} {marks : List Mark}
    (reads : marks? config pieces = some marks) {piece : Piece} (member : piece ∈ pieces)
    (isOpen : ¬ piece.isQuotation) : piece.StandsAlone := by
  cases piece with
  | text content => trivial
  | quotation kind content body closing => exact absurd rfl isOpen
  | span delimiter content =>
      cases delimiter with
      | output => trivial
      | block =>
          intro keyword known word
          obtain ⟨mark, meaning⟩ := exists_mark?_of_marks? reads member
          have keyword_eq : (Tag.ofInside (Text.trim content) 0).keyword = keyword := by
            rw [Tag.ofInside, ← Text.firstWord_eq_untilBlank_trim, word, String.ofList_toList]
          rw [← keyword_eq] at known ⊢
          exact (Tag.keyword_eq_of_arguments (Tag.arguments_eq_nil_of_mark? meaning known)).symm

theorem marks?_of_reclosed (config : Config) {pieces others : List Piece}
    (reclosed : List.Forall₂ Reclosed pieces others) :
    marks? config pieces = marks? config others := by
  have shown : pieces.filterMap shown? = others.filterMap shown? := by
    induction reclosed with
    | nil => rfl
    | cons here _ ih => rw [List.filterMap_cons, List.filterMap_cons, here.shown?_eq, ih]
  rw [marks?, marks?, shown]

end Piece

namespace Node

/-- A source with the pieces compiles to what they say. -/
theorem compile_eq_ok_iff_of_tiles {config : Config} {source : List Char} {pieces : List Piece}
    (tiles : Piece.Tiles source pieces) {nodes : List Node} :
    compile config source = .ok nodes ↔
      ∃ marks, Piece.marks? config pieces = some marks ∧ Outline.build marks = some nodes := by
  rw [compile_eq_ok_iff_tiles]
  constructor
  · rintro ⟨others, marks, same, read, built⟩
    rw [tiles.unique same]
    exact ⟨marks, read, built⟩
  · rintro ⟨marks, read, built⟩
    exact ⟨pieces, marks, tiles, read, built⟩

end Node

namespace Template

/--
In a source that compiles, nothing stands behind an `else` or in the closing
tag of a block behind its keyword, and a source in which something does is
refused.  Only the closing tags of quotations may go on behind their word; but
a source compiles to the same however they go on.
-/
theorem standsAlone_of_compile (config : Config) (source : String) :
    (∀ template, compile config source = .ok template →
      ∃ pieces, Piece.Tiles source.toList pieces ∧
        ∀ piece ∈ pieces, piece.isQuotation ∨ piece.StandsAlone) ∧
    ∀ pieces, Piece.Tiles source.toList pieces →
      (∀ piece ∈ pieces, ¬ piece.isQuotation → ¬ piece.StandsAlone →
        ∃ error, compile config source = .error error) ∧
      ∀ others, List.Forall₂ Piece.Reclosed pieces others → ∀ template,
        compile config source = .ok template ↔
          compile config (String.ofList (others.flatMap Piece.source)) = .ok template := by
  have alone {pieces : List Piece} (tiles : Piece.Tiles source.toList pieces)
      {template : Template} (compiled : compile config source = .ok template) {piece : Piece}
      (member : piece ∈ pieces) (isOpen : ¬ piece.isQuotation) : piece.StandsAlone := by
    obtain ⟨marks, read, -⟩ :=
      (Node.compile_eq_ok_iff_of_tiles tiles).1 (compile_eq_ok_iff.1 compiled).1
    exact Piece.standsAlone_of_marks? read member isOpen
  refine ⟨fun template compiled => ?_, fun pieces tiles => ⟨?_, fun others reclosed template => ?_⟩⟩
  · obtain ⟨pieces, _, tiles, -⟩ :=
      Node.compile_eq_ok_iff_tiles.1 (compile_eq_ok_iff.1 compiled).1
    exact ⟨pieces, tiles, fun piece member => or_iff_not_imp_left.2 (alone tiles compiled member)⟩
  · intro piece member isOpen further
    cases compiled : compile config source with
    | error error => exact ⟨error, rfl⟩
    | ok template => exact absurd (alone tiles compiled member isOpen) further
  · rw [compile_eq_ok_iff, compile_eq_ok_iff, String.toList_ofList,
      Node.compile_eq_ok_iff_of_tiles tiles,
      Node.compile_eq_ok_iff_of_tiles (tiles.reclose reclosed),
      Piece.marks?_of_reclosed config reclosed]

/-- A conditional, and a quotation whose closing tag goes on behind its word. -/
theorem standsAlone_of_compile_else :
    let source := "{% if a %}{% else %}{% endif %}{% raw %}x{% endraw y %}"
    ∃ template, compile .empty source = .ok template ∧
      (∃ pieces, Piece.Tiles source.toList pieces ∧
        ∀ piece ∈ pieces, piece.isQuotation ∨ piece.StandsAlone) ∧
      compile .empty "{% if a %}{% else %}{% endif %}{% raw %}x{% endraw %}" = .ok template := by
  intro source
  let quotation (closing : List Char) : Piece := .quotation .raw " raw ".toList ['x'] closing
  let conditional : List Piece := [.span .block " if a ".toList, .span .block " else ".toList,
    .span .block " endif ".toList]
  have compiled : Node.compile .empty source.toList =
      .ok [.conditional [⟨some (.path ["a"]), []⟩, ⟨none, []⟩], .text "x"] := by cbv
  have tiles : Piece.Tiles source.toList (conditional ++ [quotation " endraw y ".toList]) :=
    Piece.scan_eq_ok_iff.1 (by decide +kernel : Piece.scan 0 _ = _)
  have known : compile .empty source = .ok ⟨_, .empty⟩ := compile_eq_ok_iff.2 ⟨compiled, rfl⟩
  obtain ⟨alone, others⟩ := standsAlone_of_compile .empty source
  refine ⟨_, known, alone _ known, ?_⟩
  have reclosed : List.Forall₂ Piece.Reclosed (conditional ++ [quotation " endraw y ".toList])
      (conditional ++ [quotation " endraw ".toList]) :=
    .cons (.refl _) (.cons (.refl _) (.cons (.refl _) (.cons (.quotation
      (@Delimiter.closedBy_pad .block "endraw".toList (by decide)) (by decide)) .nil)))
  exact ((others _ tiles).2 _ reclosed _).1 known

/-- The closing tag of a quotation can have arguments. -/
theorem compile_endraw_arguments :
    let source := "{% raw %}x{% endraw y %}"
    let piece : Piece := .quotation .raw " raw ".toList ['x'] " endraw y ".toList
    compile .empty source = .ok ⟨[.text "x"], .empty⟩ ∧
      Piece.Tiles source.toList [piece] ∧ ¬ piece.StandsAlone := by
  intro source piece
  have compiled : Node.compile .empty source.toList = .ok [.text "x"] := by cbv
  refine ⟨compile_eq_ok_iff.2 ⟨compiled, rfl⟩, ?_, ?_⟩
  · exact Piece.scan_eq_ok_iff.1 (by decide +kernel : Piece.scan 0 _ = _)
  · change ¬ Text.trim _ = _
    decide

end Template

end Stencil
