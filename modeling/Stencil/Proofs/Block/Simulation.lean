import Stencil.Proofs.Block.Outline

/-!
# Assemblies as outlines

The steps of an assembly are those of its outline, wherever they succeed, and
fail where those of the outline do.
-/

namespace Stencil

namespace Tag

theorem toOption_expectAlone (tag : Tag) (mark : Mark) :
    tag.expectAlone.toOption.map (fun _ => mark) = tag.alone? mark := by
  unfold expectAlone alone?
  split <;> rfl

end Tag

/-- The keywords that a tag may have besides those of closing and of registered tags. -/
def Tag.languageKeywords : List String :=
  ["if", "unless", "case", "capture", "assign", "", "elseif", "elsif", "else", "when"]

namespace OpenBlock

def enclosing (block : OpenBlock) : Enclosing :=
  ⟨block.frame, block.before⟩

theorem isTurn_iff {block : OpenBlock} {keyword : String} :
    block.isTurn keyword = true ↔ keyword ∈ block.frame.turnKeywords := by
  unfold isTurn Frame.turnKeywords
  split <;> simp [*, Frame.closer]

theorem toOption_turnCase (config : Config) {tag : Tag} {subject : Expr}
    (cases : List (When Node)) (keyword : tag.keyword ∈ (Frame.preamble subject).turnKeywords) :
    (turnCase subject cases tag).toOption =
      (tag.mark? config).bind (Frame.turnCase? subject cases) := by
  simp only [Frame.turnKeywords, List.mem_cons, List.not_mem_nil, or_false] at keyword
  unfold turnCase Tag.mark?
  rcases keyword with isCloser | isWhen | isElse
  · simp [isCloser, ← Tag.toOption_expectAlone, BlockKind.ofCloser?]
    cases tag.expectAlone <;> simp [Frame.turnCase?, Frame.close?]
  · simp [isWhen]
    cases tag.arguments.values <;> simp [Frame.turnCase?]
  · simp [isElse, ← Tag.toOption_expectAlone]
    cases tag.expectAlone <;> simp [Frame.turnCase?]

theorem toOption_turn_conditional (config : Config) {tag : Tag} {block : OpenBlock}
    {body : List Node} {negated : Bool} {branches : List (Branch Node)} {condition : Option Expr}
    (shape : block.frame = .conditional negated branches condition)
    (keyword : tag.keyword ∈ (Frame.conditional negated branches condition).turnKeywords) :
    (block.turn body tag).toOption = (tag.mark? config).bind
      (Frame.turnConditional? negated (branches ++ [⟨condition, body⟩]) condition) := by
  unfold turn Tag.mark?
  cases negated with
  | false =>
      simp only [Frame.turnKeywords, List.mem_cons, List.not_mem_nil, or_false] at keyword
      rcases keyword with isCloser | isElseIf | isElseIf | isElse
      · simp [shape, isCloser, ← Tag.toOption_expectAlone, BlockKind.ofCloser?, Frame.closer]
        cases tag.expectAlone <;> simp [Frame.turnConditional?, Frame.close?]
      · cases condition <;> cases tag.arguments.condition <;>
          simp [shape, isElseIf, Frame.closer, Frame.turnConditional?, afterElse, Checked.fail]
      · cases condition <;> cases tag.arguments.condition <;>
          simp [shape, isElseIf, Frame.closer, Frame.turnConditional?, afterElse, Checked.fail]
      · simp [shape, isElse, ← Tag.toOption_expectAlone, Frame.closer]
        cases condition <;> cases tag.expectAlone <;>
          simp [Frame.turnConditional?, afterElse, Checked.fail]
  | true =>
      simp only [Frame.turnKeywords, List.mem_cons, List.not_mem_nil, or_false] at keyword
      rcases keyword with isCloser | isElse
      · simp [shape, isCloser, ← Tag.toOption_expectAlone, BlockKind.ofCloser?, Frame.closer]
        cases tag.expectAlone <;> simp [Frame.turnConditional?, Frame.close?]
      · simp [shape, isElse, ← Tag.toOption_expectAlone, Frame.closer]
        cases condition <;> cases tag.expectAlone <;>
          simp [Frame.turnConditional?, afterElse, Checked.fail]

theorem toOption_turn (config : Config) {tag : Tag} {block : OpenBlock} {body : List Node}
    (keyword : tag.keyword ∈ block.frame.turnKeywords) :
    (block.turn body tag).toOption = (tag.mark? config).bind (block.frame.turn? body) := by
  cases shape : block.frame with
  | conditional negated branches condition =>
      rw [shape] at keyword
      rw [toOption_turn_conditional config shape keyword, Frame.turn?]
  | preamble subject =>
      rw [shape] at keyword
      rw [turn, shape, Frame.turn?, Except.toOption_bind, toOption_turnCase config [] keyword]
      unfold expectOnlyText
      split <;> simp [Checked.fail]
  | case subject cases values =>
      rw [shape] at keyword
      rw [turn, shape, Frame.turn?, toOption_turnCase config _ keyword]
  | otherwise subject cases =>
      simp only [shape, Frame.turnKeywords, List.mem_cons, List.not_mem_nil, or_false] at keyword
      unfold turn Tag.mark?
      rcases keyword with isCloser | isWhen | isElse
      · simp [shape, isCloser, ← Tag.toOption_expectAlone, BlockKind.ofCloser?, Frame.closer]
        cases tag.expectAlone <;> simp [Frame.turn?, Frame.close?]
      · cases tag.arguments.values <;>
          simp [shape, isWhen, Frame.closer, Frame.turn?, Frame.close?, afterElse, Checked.fail]
      · simp [shape, isElse, ← Tag.toOption_expectAlone, Frame.closer, afterElse, Checked.fail]
        cases tag.expectAlone <;> simp [Frame.turn?, Frame.close?]
  | capture name =>
      simp only [shape, Frame.turnKeywords, List.mem_singleton] at keyword
      unfold turn Tag.mark?
      simp [shape, keyword, ← Tag.toOption_expectAlone, BlockKind.ofCloser?]
      cases tag.expectAlone <;> simp [Frame.turn?, Frame.close?]

theorem toOption_unclosed (block : OpenBlock) (body : List Node) :
    (block.unclosed body).toOption = none := by
  unfold unclosed expectOnlyText
  cases block.frame with
  | preamble subject => by_cases onlyText : body.all Node.isText <;> simp [onlyText, Checked.fail]
  | _ => simp [Checked.fail]

end OpenBlock

namespace Assembly

/-- An assembly without keywords and positions. -/
def outline (assembly : Assembly) : Outline :=
  ⟨assembly.reversed, assembly.blocks.map OpenBlock.enclosing⟩

theorem toOption_addTag_of_other (config : Config) (assembly : Assembly) {tag : Tag}
    (other : tag.keyword ∉ Tag.languageKeywords) :
    (assembly.addTag config tag).toOption.map outline =
      (tag.mark? config).bind fun mark =>
        if mark.isTurn then none else assembly.outline.add mark := by
  simp only [Tag.languageKeywords, List.mem_cons, List.not_mem_nil, or_false, not_or] at other
  obtain ⟨ifKey, unlessKey, caseKey, captureKey, assignKey, emptyKey, elseifKey, elsifKey,
    elseKey, whenKey⟩ := other
  have noBranch : tag.keyword ∉ ["elseif", "elsif", "else", "when"] := by simp [*]
  simp only [addTag, Tag.mark?, if_false, or_self, *]
  cases closes : BlockKind.ofCloser? tag.keyword with
  | some kind =>
      have free : config.tag? tag.keyword = none := by
        rw [BlockKind.closer_of_ofCloser? closes]
        exact config.unreserved _ kind.closer_mem_reservedTags
      simp only [free, Tag.alone?]
      split <;> split <;> simp [Checked.fail, Mark.isTurn]
  | none =>
      simp only [Tag.custom?]
      cases config.tag? tag.keyword with
      | none =>
          dsimp only
          split <;> simp [Checked.fail]
      | some custom =>
          simp only [Option.bind_some]
          cases custom.validate (String.ofList tag.arguments.text) with
          | ok accepted => simp [Mark.isTurn, Outline.add, outline, Outline.push, push]
          | error reason => simp [Checked.fail]

/-- A tag that does not turn the innermost block. -/
theorem toOption_addTag (config : Config) (assembly : Assembly) (tag : Tag) :
    (assembly.addTag config tag).toOption.map outline =
      (tag.mark? config).bind fun mark =>
        if mark.isTurn then none else assembly.outline.add mark := by
  by_cases language : tag.keyword ∈ Tag.languageKeywords
  case neg => exact toOption_addTag_of_other config assembly language
  simp only [Tag.languageKeywords, List.mem_cons, List.not_mem_nil, or_false] at language
  have entered (frame : Frame) :
      outline (assembly.enter tag frame) = assembly.outline.enter frame := rfl
  unfold addTag Tag.mark?
  rcases language with key | key | key | key | key | key | key | key | key | key
  · cases tag.arguments.condition <;> simp [key, Mark.isTurn, Outline.add, entered]
  · cases tag.arguments.condition <;> simp [key, Mark.isTurn, Outline.add, entered]
  · cases tag.arguments.subject <;> simp [key, Mark.isTurn, Outline.add, entered]
  · cases tag.arguments.captureName <;> simp [key, Mark.isTurn, Outline.add, entered]
  · cases tag.arguments.assignment config.hasFilter <;>
      simp [key, Mark.isTurn, Outline.add, outline, Outline.push, push]
  · simp [key, Checked.fail]
  · cases tag.arguments.condition <;> simp [key, Checked.fail, Mark.isTurn]
  · cases tag.arguments.condition <;> simp [key, Checked.fail, Mark.isTurn]
  · by_cases alone : tag.arguments.text = [] <;>
      simp [key, alone, Checked.fail, Mark.isTurn, Tag.alone?]
  · cases tag.arguments.values <;> simp [key, Checked.fail, Mark.isTurn]

/-- A turn of the innermost block, and the outline after it. -/
theorem turn?_outline {assembly : Assembly} {block : OpenBlock} {blocks : List OpenBlock}
    (opened : assembly.blocks = block :: blocks) (mark : Mark) :
    assembly.outline.turn? mark =
      (block.frame.turn? assembly.body mark).map
        (Outline.resume block.enclosing (blocks.map OpenBlock.enclosing)) := by
  rw [Outline.turn?, outline, opened]
  rfl

/-- A mark that does not turn the innermost block is no turn of it. -/
theorem turn?_outline_eq_none {config : Config} {assembly : Assembly} {tag : Tag} {mark : Mark}
    (reads : tag.mark? config = some mark)
    (stays : ∀ block, assembly.blocks.head? = some block → ¬ block.isTurn tag.keyword) :
    assembly.outline.turn? mark = none := by
  cases opened : assembly.blocks with
  | nil =>
      rw [Outline.turn?, outline, opened]
      rfl
  | cons block blocks =>
      rw [turn?_outline opened, Option.map_eq_none_iff]
      cases turns : block.frame.turn? assembly.body mark with
      | none => rfl
      | some turn =>
          have keyword := Tag.keyword_mem_of_mark? reads
          have turning := Frame.keywords_subset_of_turn? turns keyword
          rw [← OpenBlock.isTurn_iff] at turning
          exact absurd turning (stays block (by rw [opened]; rfl))

theorem toOption_addTag_of_stays (config : Config) {assembly : Assembly} {tag : Tag}
    (stays : ∀ block, assembly.blocks.head? = some block → ¬ block.isTurn tag.keyword) :
    (assembly.addTag config tag).toOption.map outline =
      (tag.mark? config).bind assembly.outline.add := by
  rw [toOption_addTag]
  refine Option.bind_congr fun mark reads => ?_
  split
  · next isTurn =>
      rw [Outline.add_of_isTurn isTurn, turn?_outline_eq_none reads stays]
  · rfl

/-- An assembly takes a segment as its outline takes the mark of the segment. -/
theorem toOption_add (config : Config) (assembly : Assembly) (segment : Segment) :
    (assembly.add config segment).toOption.map outline =
      (segment.mark? config).bind assembly.outline.add := by
  cases segment with
  | text content => rfl
  | output inner position =>
      simp only [add, Segment.mark?]
      cases TagInside.output config.hasFilter ⟨inner, position⟩ <;> rfl
  | block inner position =>
      simp only [add, Segment.mark?]
      generalize Tag.ofInside inner position = tag
      cases opened : assembly.blocks with
      | nil => exact toOption_addTag_of_stays config (by simp [opened])
      | cons block blocks =>
          dsimp only
          split
          · next turns =>
              rw [OpenBlock.isTurn_iff] at turns
              rw [Except.toOption_bind, OpenBlock.toOption_turn config turns]
              cases reads : tag.mark? config with
              | none => rfl
              | some mark =>
                  have isTurn := Tag.isTurn_of_mark? reads (Frame.turnKeywords_subset _ turns)
                  rw [Option.bind_some, Option.bind_some, Outline.add_of_isTurn isTurn,
                    turn?_outline opened]
                  cases block.frame.turn? assembly.body mark with
                  | none => rfl
                  | some turn => cases turn <;> rfl
          · next stays =>
              refine toOption_addTag_of_stays config fun innermost here => ?_
              rw [opened, List.head?_cons, Option.some.injEq] at here
              rwa [← here]

theorem toOption_foldlM_add (config : Config) (segments : List Segment) (assembly : Assembly) :
    (segments.foldlM (add config) assembly).toOption.map outline =
      (segments.mapM (Segment.mark? config)).bind fun marks =>
        marks.foldlM Outline.add assembly.outline := by
  induction segments generalizing assembly with
  | nil => rfl
  | cons segment segments ih =>
      have first := toOption_add config assembly segment
      rw [List.foldlM_cons, List.mapM_cons, Except.toOption_bind]
      cases added : assembly.add config segment with
      | error failure =>
          rw [added] at first
          cases reads : segment.mark? config with
          | none => rfl
          | some mark =>
              have stops : assembly.outline.add mark = none := by simpa [reads] using first.symm
              cases segments.mapM (Segment.mark? config) with
              | none => rfl
              | some marks => simp [stops]
      | ok next =>
          rw [added] at first
          cases reads : segment.mark? config with
          | none => simp [reads] at first
          | some mark =>
              have moves : assembly.outline.add mark = some next.outline := by
                simpa [reads] using first.symm
              rw [Except.toOption_ok, Option.bind_some, ih]
              cases segments.mapM (Segment.mark? config) with
              | none => rfl
              | some marks => simp [moves]

theorem toOption_finish (assembly : Assembly) :
    assembly.finish.toOption = assembly.outline.finish? := by
  rw [finish, Outline.finish?, outline]
  cases assembly.blocks with
  | nil => rfl
  | cons block blocks => exact OpenBlock.toOption_unclosed block assembly.body

end Assembly

namespace Node

/-- Segments have nodes just where their marks do, and the same ones. -/
theorem toOption_ofSegments (config : Config) (segments : List Segment) :
    (ofSegments config segments).toOption =
      (segments.mapM (Segment.mark? config)).bind Outline.build := by
  have outlines := Assembly.toOption_foldlM_add config segments .empty
  rw [ofSegments, Except.toOption_bind]
  simp only [Assembly.toOption_finish]
  change (Option.bind _ (Outline.finish? ∘ Assembly.outline)) = _
  rw [← Option.bind_map, outlines, Option.bind_assoc]
  rfl

theorem compile_eq_ok_iff {config : Config} {source : List Char} {nodes : List Node} :
    compile config source = .ok nodes ↔
      ∃ segments marks, Segment.scan source = .ok segments ∧
        segments.mapM (Segment.mark? config) = some marks ∧ Outline.build marks = some nodes := by
  rw [← Except.toOption_eq_some_iff, compile, Except.toOption_bind]
  simp only [toOption_ofSegments, Option.bind_eq_some_iff, Except.toOption_eq_some_iff]
  constructor
  · rintro ⟨segments, scanned, marks, read, built⟩
    cases found : Segment.scan source with
    | error failure => simp [found, Except.mapError] at scanned
    | ok known =>
        obtain rfl : known = segments := by simpa [found, Except.mapError] using scanned
        exact ⟨known, marks, rfl, read, built⟩
  · rintro ⟨segments, marks, scanned, read, built⟩
    exact ⟨segments, by rw [scanned]; rfl, marks, read, built⟩

end Node

end Stencil
