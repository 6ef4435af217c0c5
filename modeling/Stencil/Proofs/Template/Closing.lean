import Mathlib
import Stencil.Proofs.Block.Failure
import Stencil.Proofs.Block.Opened
import Stencil.Proofs.Piece.Printing
import Stencil.Proofs.Segment.Concatenation

/-!
# Blocks that are never closed

A block that is open at the end of a source is reported with the closer that it
asks for.  It is the innermost of the blocks that are open, so with this closer
behind the source only the blocks around it are left, which stand before it.
-/

namespace Stencil

namespace Frame

theorem closer_eq_kind (frame : Frame) : frame.closer = frame.kind.closer := by
  cases frame with
  | conditional negated branches condition => cases negated <;> rfl
  | _ => rfl

theorem close?_closing (kind : BlockKind) (node : Node) :
    close? kind node (.closing kind) = some (.close node) :=
  if_pos rfl

/-- The closing tag of its family closes a block, unless it is a case that cannot be one. -/
theorem exists_turn?_closing (frame : Frame) (body : List Node)
    (onlyText : frame.isPreamble → body.all Node.isText) :
    ∃ node, frame.turn? body (.closing frame.kind) = some (.close node) := by
  cases frame with
  | preamble subject =>
      rw [turn?, if_pos (onlyText rfl)]
      exact ⟨_, close?_closing .switch _⟩
  | conditional negated branches condition => exact ⟨_, close?_closing (.conditional negated) _⟩
  | case subject cases values => exact ⟨_, close?_closing .switch _⟩
  | otherwise subject cases => exact ⟨_, close?_closing .switch _⟩
  | capture name => exact ⟨_, close?_closing .capture _⟩

end Frame

namespace OpenBlock

/-- A block at the end of a source asks for its closer, unless it is a case that cannot be one. -/
theorem unclosed_cases (block : OpenBlock) (body : List Node) :
    (block.unclosed body =
        .error ⟨.neverClosed block.keyword block.frame.closer, block.position⟩ ∧
      (block.frame.isPreamble → body.all Node.isText)) ∨
    block.unclosed body = .error ⟨.caseWithoutBranch, block.position⟩ := by
  unfold unclosed expectOnlyText
  cases block.frame with
  | preamble subject =>
      by_cases onlyText : body.all Node.isText
      · exact .inl ⟨by rw [if_pos onlyText]; rfl, fun _ => onlyText⟩
      · exact .inr (by rw [if_neg onlyText]; rfl)
  | _ => exact .inl ⟨rfl, by simp [Frame.isPreamble]⟩

end OpenBlock

namespace Assembly

/-- A source at its end has its nodes, or its innermost block is open and is reported. -/
theorem finish_cases (assembly : Assembly) :
    (∃ nodes, assembly.finish = .ok nodes) ∨
      ∃ block blocks, assembly.blocks = block :: blocks ∧
        (assembly.finish =
            .error ⟨.neverClosed block.keyword block.frame.closer, block.position⟩ ∧
          (block.frame.isPreamble → assembly.body.all Node.isText) ∨
        assembly.finish = .error ⟨.caseWithoutBranch, block.position⟩) := by
  unfold finish
  cases assembly.blocks with
  | nil => exact .inl ⟨_, rfl⟩
  | cons block blocks => exact .inr ⟨block, blocks, rfl, block.unclosed_cases assembly.body⟩

/-- The closing tag of the innermost block leaves the blocks around it. -/
theorem exists_add_closing (config : Config) {assembly : Assembly} {block : OpenBlock}
    {blocks : List OpenBlock} (opened : assembly.blocks = block :: blocks)
    (onlyText : block.frame.isPreamble → assembly.body.all Node.isText) {segment : Segment}
    (reads : segment.mark? config = some (.closing block.frame.kind)) :
    ∃ next, assembly.add config segment = .ok next ∧ next.blocks = blocks := by
  obtain ⟨node, turns⟩ := block.frame.exists_turn?_closing assembly.body onlyText
  have simulated := toOption_add config assembly segment
  rw [reads, Option.bind_some, Outline.add_of_isTurn rfl, turn?_outline opened, turns,
    Option.map_some, Option.map_eq_some_iff] at simulated
  obtain ⟨next, added, -⟩ := simulated
  rw [Except.toOption_eq_some_iff] at added
  have keyword : segment.keyword? = some block.frame.kind.closer := by
    cases segment with
    | text content => cases reads
    | output inner position => simp [Segment.mark?] at reads
    | block inner position =>
        exact congrArg some (List.mem_singleton.1 (Tag.keyword_mem_of_mark? reads))
  refine ⟨next, added, ?_⟩
  cases steps_of_add added with
  | stays ignores blocks_eq => exact absurd rfl (ignores _ keyword block.frame.kind).2
  | branches ignores block_eq kind_eq blocks_eq =>
      exact absurd rfl (ignores _ keyword block.frame.kind).2
  | enters segment_eq opens blocks_eq =>
      rw [keyword] at opens
      exact absurd (Option.some.inj opens).symm (BlockKind.opener_ne_closer _ _)
  | closes block_eq closes blocks_eq =>
      rw [opened] at block_eq
      rw [blocks_eq, (List.cons.inj block_eq).2]

end Assembly

/-! ## Sources with open blocks -/

theorem Node.compile_of_scan (config : Config) {source : List Char} {segments : List Segment}
    (scanned : Segment.scan source = .ok segments) :
    compile config source =
      segments.foldlM (Assembly.add config) .empty >>= Assembly.finish := by
  rw [compile, scanned]
  rfl

/-- A source falls into segments that can be put together, up to the blocks that are open. -/
structure Assembles (config : Config) (source : List Char) (segments : List Segment)
    (assembly : Assembly) : Prop where
  scanned : Segment.scan source = .ok segments
  added : segments.foldlM (Assembly.add config) .empty = .ok assembly
  unbraced : source.getLast? ≠ some '{'

namespace Assembles

variable {config : Config} {source : List Char} {segments : List Segment} {assembly : Assembly}

theorem compile_eq (assembles : Assembles config source segments assembly) :
    Node.compile config source = assembly.finish := by
  rw [Node.compile_of_scan config assembles.scanned, assembles.added]
  rfl

theorem opened (assembles : Assembles config source segments assembly) :
    Assembly.Opened segments assembly.blocks :=
  @Assembly.opened_of_foldlM_add config [] segments .empty assembly (.none .nil) assembles.added

/-- With its closing tag behind the source, the innermost block is closed. -/
theorem exists_closed (assembles : Assembles config source segments assembly)
    {block : OpenBlock} {blocks : List OpenBlock} (block_eq : assembly.blocks = block :: blocks)
    (onlyText : block.frame.isPreamble → assembly.body.all Node.isText) :
    ∃ segments next,
      Assembles config (source ++ (Mark.closing block.frame.kind).piece.source) segments next ∧
        next.blocks = blocks := by
  have denotes := @Mark.Printable.denotes config (.closing block.frame.kind) trivial
  obtain ⟨segment, single, reads⟩ := denotes.exists_ofPiece (Text.width source)
  obtain ⟨next, added, rest⟩ := Assembly.exists_add_closing config block_eq onlyText reads
  refine ⟨segments ++ [segment], next, ⟨?_, ?_, ?_⟩, rest⟩
  · rw [← single]
    exact Segment.scan_append_piece assembles.scanned denotes.wellFormed (by simp [Mark.piece,
      Piece.tag, Piece.isText]) assembles.unbraced
  · rw [List.foldlM_append, assembles.added]
    change [segment].foldlM (Assembly.add config) assembly = _
    rw [List.foldlM_cons, added]
    rfl
  · rw [Mark.piece, Piece.tag, Piece.source, Piece.getLast?_append_enclose]
    simp

end Assembles

/-- A source in which an `if`, `unless`, `case` or `capture` is never closed. -/
theorem exists_assembles_of_neverClosed {config : Config} {source : List Char}
    {opener closer : String} {position : Nat} (unbraced : source.getLast? ≠ some '{')
    (isBlock : opener ∈ BlockKind.openers)
    (failed : Node.compile config source = .error ⟨.neverClosed opener closer, position⟩) :
    ∃ segments assembly, Assembles config source segments assembly ∧
      assembly.finish = .error ⟨.neverClosed opener closer, position⟩ := by
  cases scanned : Segment.scan source with
  | error failure =>
      -- Only the tags of quotations are reported by scanning as never closed.
      rw [Node.compile, scanned] at failed
      obtain ⟨reason, place⟩ := failure
      cases reason with
      | unterminated delimiter => cases failed
      | unclosed kind => cases kind <;> cases failed <;> exact absurd isBlock (by decide)
  | ok segments =>
      rw [Node.compile_of_scan config scanned] at failed
      have refused := @Assembly.Allows.foldlM_add (fun _ => True) .empty Assembly.allows_empty
        config segments fun _ _ _ _ => trivial
      cases added : segments.foldlM (Assembly.add config) .empty with
      | error failure =>
          rw [added] at failed
          cases failed
          exact absurd rfl ((refused.fails _ added).ne_neverClosed opener closer)
      | ok assembly =>
          rw [added] at failed
          exact ⟨segments, assembly, ⟨scanned, added, unbraced⟩, failed⟩

namespace Template

/-- The closer that a source asks for in which an `if`, `unless`, `case` or `capture` is open. -/
def askedCloser? (config : Config) (source : String) : Option String :=
  match Node.compile config source.toList with
  | .error ⟨.neverClosed opener closer, _⟩ =>
      if opener ∈ BlockKind.openers then some closer else none
  | _ => none

/-- A source with a closing tag behind it. -/
def withCloser (source closer : String) : String :=
  source ++ "\x7b% " ++ closer ++ " %\x7d"

/-- A source with the closing tag behind it that it asks for, if it does. -/
def appendCloser (config : Config) (source : String) : String :=
  match askedCloser? config source with
  | some closer => withCloser source closer
  | none => source

/-- The innermost block that is open at the end of a source, by the byte position of its tag. -/
def LeftOpen (source : String) (kind : BlockKind) (position : Nat) : Prop :=
  ∃ before inner after,
    Segment.scan source.toList = .ok (before ++ .block inner position :: after) ∧
      (Tag.ofInside inner position).keyword = kind.opener ∧ Segment.Balanced after

theorem toList_withCloser (source : String) (kind : BlockKind) :
    (withCloser source kind.closer).toList =
      source.toList ++ (Mark.closing kind).piece.source := by
  simp [withCloser, Mark.piece, Piece.tag, Piece.source, Piece.enclose, Delimiter.pad,
    Tag.printInside, Delimiter.opening, Delimiter.closing]

/-- What a source asks for is the closer of its innermost block. -/
theorem askedCloser?_cases {config : Config} {source : String} {segments : List Segment}
    {assembly : Assembly} (assembles : Assembles config source.toList segments assembly) :
    askedCloser? config source = none ∨
      ∃ block blocks, assembly.blocks = block :: blocks ∧
        askedCloser? config source = some block.frame.kind.closer ∧
          (block.frame.isPreamble → assembly.body.all Node.isText) := by
  unfold askedCloser?
  rw [assembles.compile_eq]
  rcases assembly.finish_cases with
    ⟨nodes, finished⟩ | ⟨block, blocks, block_eq, ⟨failed, onlyText⟩ | failed⟩
  · exact .inl (by rw [finished])
  · have opened := assembles.opened
    rw [block_eq] at opened
    have opener : block.keyword ∈ BlockKind.openers := BlockKind.mem_openers_iff.2
      ⟨_, opened.keyword_eq⟩
    exact .inr ⟨block, blocks, block_eq, by simp [failed, opener, Frame.closer_eq_kind], onlyText⟩
  · exact .inl (by rw [failed])

/-- Each block that is open at the end of a source takes one closer. -/
theorem askedCloser?_iterate {config : Config} {source : String} {segments : List Segment}
    {assembly : Assembly} (assembles : Assembles config source.toList segments assembly)
    {steps : Nat} (enough : assembly.blocks.length ≤ steps) :
    askedCloser? config ((appendCloser config)^[steps] source) = none := by
  induction steps generalizing source segments assembly with
  | zero =>
      rcases askedCloser?_cases assembles with asked | ⟨block, blocks, block_eq, -⟩
      · exact asked
      · simp [block_eq] at enough
  | succ steps ih =>
      rw [Function.iterate_succ_apply]
      rcases askedCloser?_cases assembles with asked | ⟨block, blocks, block_eq, asked, onlyText⟩
      · have fixed : appendCloser config source = source := by rw [appendCloser, asked]
        rw [fixed, Function.iterate_fixed fixed, asked]
      · obtain ⟨others, next, closed, rest⟩ := assembles.exists_closed block_eq onlyText
        have appended : appendCloser config source = withCloser source block.frame.kind.closer := by
          rw [appendCloser, asked]
        rw [← toList_withCloser, ← appended] at closed
        refine ih closed ?_
        rw [block_eq, List.length_cons] at enough
        rw [rest]
        omega

/-- What is wrong with a source that falls into segments up to its end is its innermost block. -/
theorem compile_cases {config : Config} {source : String} {segments : List Segment}
    {assembly : Assembly} (assembles : Assembles config source.toList segments assembly) :
    (∃ template, compile config source = .ok template) ∨
      ∃ block blocks, assembly.blocks = block :: blocks ∧
        ∃ kind message, compile config source = .error (.parse kind block.position message) := by
  unfold compile
  rw [assembles.compile_eq]
  rcases assembly.finish_cases with
    ⟨nodes, finished⟩ | ⟨block, blocks, block_eq, ⟨failed, -⟩ | failed⟩
  · exact .inl ⟨⟨nodes, config⟩, by rw [finished]⟩
  · exact .inr ⟨block, blocks, block_eq, _, _, by rw [failed]; rfl⟩
  · exact .inr ⟨block, blocks, block_eq, _, _, by rw [failed]; rfl⟩

/--
A block that is reported as never closed is the innermost one that is open, and
is reported with its closer.  With this closer behind the source, what can still
be wrong is a block around it; and so appending what is asked for stops after at
most as many steps as there are tags that open blocks.
-/
theorem compile_withCloser {config : Config} {source opener closer : String} {position : Nat}
    (unbraced : source.toList.getLast? ≠ some '{') (isBlock : opener ∈ BlockKind.openers)
    (failed : Node.compile config source.toList =
      .error ⟨.neverClosed opener closer, position⟩) :
    (∃ kind : BlockKind, opener = kind.opener ∧ closer = kind.closer ∧
      LeftOpen source kind position) ∧
    ((∃ template, compile config (withCloser source closer) = .ok template) ∨
      ∃ kind place message,
        compile config (withCloser source closer) = .error (.parse kind place message) ∧
          place < position) ∧
    ∃ segments, Segment.scan source.toList = .ok segments ∧
      askedCloser? config
        ((appendCloser config)^[segments.countP Segment.isOpener] source) = none := by
  obtain ⟨segments, assembly, assembles, finished⟩ :=
    exists_assembles_of_neverClosed unbraced isBlock failed
  have opened := assembles.opened
  have ordered := Segment.pairwise_position_of_scan assembles.scanned
  have stops := askedCloser?_iterate assembles opened.length_le
  rcases assembly.finish_cases with
    ⟨nodes, complete⟩ | ⟨block, blocks, block_eq, ⟨asks, onlyText⟩ | refuses⟩
  · rw [complete] at finished
    cases finished
  · rw [asks] at finished
    cases finished
    rw [block_eq] at opened
    refine ⟨⟨block.frame.kind, opened.keyword_eq, block.frame.closer_eq_kind, ?_⟩, ?_,
      segments, assembles.scanned, stops⟩
    · have scanned := assembles.scanned
      cases opened with
      | inside outer balanced opens keyword_eq =>
          exact ⟨_, _, _, scanned, Option.some.inj opens, balanced⟩
    · obtain ⟨others, next, closed, rest⟩ := assembles.exists_closed block_eq onlyText
      rw [← toList_withCloser, ← Frame.closer_eq_kind] at closed
      rcases compile_cases closed with compiled | ⟨outer, more, outer_eq, kind, message, failed⟩
      · exact .inl compiled
      · rw [← rest, outer_eq] at opened
        exact .inr ⟨kind, outer.position, message, failed, opened.position_lt ordered⟩
  · rw [refuses] at finished
    cases finished

/-- A `capture` behind a `case` that is closed, in an `if` that is open too. -/
theorem compile_withCloser_nested :
    let source :=
      "\x7b% if a %\x7dx\x7b% case b %\x7dy\x7b% endcase %\x7d\x7b% capture c %\x7dz"
    Node.compile .empty source.toList =
        .error ⟨.neverClosed BlockKind.capture.opener BlockKind.capture.closer, 40⟩ ∧
      ((∃ template, compile .empty (withCloser source "endcapture") = .ok template) ∨
        ∃ kind place message,
          compile .empty (withCloser source "endcapture") = .error (.parse kind place message) ∧
            place < 40) ∧
      ∃ segments, Segment.scan source.toList = .ok segments ∧
        askedCloser? .empty
          ((appendCloser .empty)^[segments.countP Segment.isOpener] source) = none := by
  intro source
  have failed : Node.compile .empty source.toList =
      .error ⟨.neverClosed BlockKind.capture.opener BlockKind.capture.closer, 40⟩ := by cbv
  exact ⟨failed, (compile_withCloser (by decide) (by decide) failed).2⟩

end Template

end Stencil
