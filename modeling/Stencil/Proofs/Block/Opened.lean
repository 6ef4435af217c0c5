import Stencil.Proofs.Block.Simulation
import Stencil.Proofs.Block.Turn
import Stencil.Proofs.Segment.Tags

/-!
# Blocks that are open

What the keywords of tags say about the blocks that are open: the tag of each
such block stands among the segments, and behind it, up to the tag of the next
one or to the end, all blocks that are opened are closed again.
-/

namespace Stencil

namespace BlockKind

/-- The keywords of the tags that open blocks. -/
def openers : List String :=
  ["if", "unless", "case", "capture"]

theorem mem_openers_iff {keyword : String} :
    keyword ∈ openers ↔ ∃ kind : BlockKind, keyword = kind.opener := by
  constructor
  · intro member
    simp only [openers, List.mem_cons, List.not_mem_nil, or_false] at member
    rcases member with rfl | rfl | rfl | rfl
    · exact ⟨.conditional false, rfl⟩
    · exact ⟨.conditional true, rfl⟩
    · exact ⟨.switch, rfl⟩
    · exact ⟨.capture, rfl⟩
  · rintro ⟨kind, rfl⟩
    have opens : ∀ kind : BlockKind, kind.opener ∈ openers := by decide
    exact opens kind

theorem opener_ne_closer : ∀ kind other : BlockKind, kind.opener ≠ other.closer := by
  decide

/-- A keyword that neither opens nor closes a block. -/
def Ignores (keyword : String) : Prop :=
  ∀ kind : BlockKind, keyword ≠ kind.opener ∧ keyword ≠ kind.closer

theorem ignores_of_not_mem {keyword : String} (free : keyword ∉ Config.reservedTags) :
    Ignores keyword := by
  intro kind
  constructor
  · rintro rfl
    exact free kind.opener_mem_reservedTags
  · rintro rfl
    exact free kind.closer_mem_reservedTags

theorem ignores_of_mem {keyword : String}
    (member : keyword ∈ ["assign", "elseif", "elsif", "else", "when"]) : Ignores keyword := by
  have apart : ∀ keyword ∈ ["assign", "elseif", "elsif", "else", "when"], ∀ kind : BlockKind,
      keyword ≠ kind.opener ∧ keyword ≠ kind.closer := by decide
  exact apart keyword member

end BlockKind

namespace Segment

/-- The keyword of a tag. -/
def keyword? : Segment → Option String
  | .block inner position => some (Tag.ofInside inner position).keyword
  | .text _ | .output _ _ => none

/-- Whether a tag opens a block. -/
def isOpener (segment : Segment) : Bool :=
  segment.keyword?.any fun keyword => keyword ∈ BlockKind.openers

/-- Segments in which the blocks that are opened are closed again, each by a tag of its family. -/
inductive Balanced : List Segment → Prop
  | nil : Balanced []
  | concat {before : List Segment} {segment : Segment} (balanced : Balanced before)
      (ignores : ∀ keyword, segment.keyword? = some keyword → BlockKind.Ignores keyword) :
      Balanced (before ++ [segment])
  | block {before body : List Segment} {opener closer : Segment} {kind : BlockKind}
      (balanced : Balanced before) (inner : Balanced body)
      (opens : opener.keyword? = some kind.opener) (closes : closer.keyword? = some kind.closer) :
      Balanced (before ++ opener :: body ++ [closer])

end Segment

namespace Frame

theorem kind_of_turnCase? {subject : Expr} {cases : List (When Node)} {mark : Mark} {turn : Turn}
    (turns : turnCase? subject cases mark = some turn) :
    (∃ next, turn = .branch next ∧ next.kind = .switch ∧ ∀ kind, mark ≠ .closing kind) ∨
      ∃ node, turn = .close node ∧ mark = .closing .switch := by
  unfold turnCase? at turns
  split at turns
  · cases turns
    exact .inl ⟨_, rfl, rfl, by simp⟩
  · cases turns
    exact .inl ⟨_, rfl, rfl, by simp⟩
  · exact .inr ⟨_, eq_of_close? turns⟩

/-- A turn of a block begins a branch of it, or is made by the closing tag of its family. -/
theorem kind_of_turn? {frame : Frame} {body : List Node} {mark : Mark} {turn : Turn}
    (turns : frame.turn? body mark = some turn) :
    (∃ next, turn = .branch next ∧ next.kind = frame.kind ∧ ∀ kind, mark ≠ .closing kind) ∨
      ∃ node, turn = .close node ∧ mark = .closing frame.kind := by
  cases frame with
  | conditional negated branches condition =>
      simp only [turn?, turnConditional?] at turns
      split at turns
      · split_ifs at turns
        cases turns
        exact .inl ⟨_, rfl, rfl, by simp⟩
      · split_ifs at turns
        cases turns
        exact .inl ⟨_, rfl, rfl, by simp⟩
      · exact .inr ⟨_, eq_of_close? turns⟩
  | preamble subject =>
      rw [turn?] at turns
      split_ifs at turns
      exact kind_of_turnCase? turns
  | case subject cases values => exact kind_of_turnCase? turns
  | otherwise subject cases => exact .inr ⟨_, eq_of_close? turns⟩
  | capture name => exact .inr ⟨_, eq_of_close? turns⟩

end Frame

/-- A branch tag neither opens nor closes a block. -/
theorem Mark.ignores_of_isTurn {mark : Mark} {keyword : String} (isTurn : mark.isTurn)
    (unclosing : ∀ kind, mark ≠ .closing kind) (member : keyword ∈ mark.keywords) :
    BlockKind.Ignores keyword := by
  apply BlockKind.ignores_of_mem
  cases mark with
  | elseIf condition =>
      simp only [keywords, List.mem_cons, List.not_mem_nil, or_false] at member
      rcases member with rfl | rfl <;> simp
  | elseTag => simp [List.mem_singleton.1 member]
  | whenTag values => simp [List.mem_singleton.1 member]
  | closing kind => exact absurd rfl (unclosing kind)
  | _ => cases isTurn

namespace Assembly

/-- What a segment makes of the blocks that are open. -/
inductive Steps (assembly : Assembly) (segment : Segment) (next : Assembly) : Prop
  | stays (ignores : ∀ keyword, segment.keyword? = some keyword → BlockKind.Ignores keyword)
      (blocks_eq : next.blocks = assembly.blocks)
  | branches {block : OpenBlock} {blocks : List OpenBlock} {frame : Frame}
      (ignores : ∀ keyword, segment.keyword? = some keyword → BlockKind.Ignores keyword)
      (opened : assembly.blocks = block :: blocks) (kind_eq : frame.kind = block.frame.kind)
      (blocks_eq : next.blocks = { block with frame } :: blocks)
  | enters {inner : List Char} {position : Nat} {frame : Frame}
      (segment_eq : segment = .block inner position)
      (opens : segment.keyword? = some frame.kind.opener)
      (blocks_eq : next.blocks =
        ⟨frame.kind.opener, position, frame, assembly.reversed⟩ :: assembly.blocks)
  | closes {block : OpenBlock} {blocks : List OpenBlock}
      (opened : assembly.blocks = block :: blocks)
      (closes : segment.keyword? = some block.frame.kind.closer) (blocks_eq : next.blocks = blocks)

/-- A tag that does not turn a block opens one, or keeps those that are open. -/
theorem blocks_of_addTag {config : Config} {assembly next : Assembly} {tag : Tag}
    (added : assembly.addTag config tag = .ok next) :
    (BlockKind.Ignores tag.keyword ∧ next.blocks = assembly.blocks) ∨
      ∃ frame : Frame, tag.keyword = frame.kind.opener ∧
        next.blocks =
          ⟨frame.kind.opener, tag.position, frame, assembly.reversed⟩ :: assembly.blocks := by
  have entered (frame : Frame) (opens : tag.keyword = frame.kind.opener)
      (same : assembly.enter tag frame = next) :
      ∃ frame : Frame, tag.keyword = frame.kind.opener ∧
        next.blocks =
          ⟨frame.kind.opener, tag.position, frame, assembly.reversed⟩ :: assembly.blocks :=
    ⟨frame, opens, by rw [← same, ← opens]; rfl⟩
  unfold addTag at added
  split at added
  · next key =>
      obtain ⟨condition, -, same⟩ := Except.bind_eq_ok_iff.1 added
      exact .inr (entered (.conditional false [] (some condition)) key (Except.ok.inj same))
  split at added
  · next key =>
      obtain ⟨condition, -, same⟩ := Except.bind_eq_ok_iff.1 added
      exact .inr (entered (.conditional true [] (some (.not condition))) key (Except.ok.inj same))
  split at added
  · next key =>
      obtain ⟨subject, -, same⟩ := Except.bind_eq_ok_iff.1 added
      exact .inr (entered (.preamble subject) key (Except.ok.inj same))
  split at added
  · next key =>
      obtain ⟨name, -, same⟩ := Except.bind_eq_ok_iff.1 added
      exact .inr (entered (.capture name) key (Except.ok.inj same))
  split at added
  · next key =>
      obtain ⟨assignment, -, same⟩ := Except.bind_eq_ok_iff.1 added
      cases same
      exact .inl ⟨BlockKind.ignores_of_mem (by simp [key]), rfl⟩
  split at added
  · cases added
  split at added
  · cases added
  split at added
  · next custom registered =>
      have free := config.not_mem_reservedTags registered
      dsimp only at added
      split at added
      · cases added
        exact .inl ⟨BlockKind.ignores_of_not_mem free, rfl⟩
      · cases added
  · split at added <;> cases added

theorem steps_of_add {config : Config} {assembly next : Assembly} {segment : Segment}
    (added : assembly.add config segment = .ok next) : assembly.Steps segment next := by
  cases segment with
  | text content =>
      cases added
      exact .stays nofun rfl
  | output inner position =>
      obtain ⟨value, -, same⟩ := Except.bind_eq_ok_iff.1 added
      cases same
      exact .stays nofun rfl
  | block inner position =>
      have outside (added : assembly.addTag config (Tag.ofInside inner position) = .ok next) :
          assembly.Steps (.block inner position) next := by
        rcases blocks_of_addTag added with ⟨ignores, same⟩ | ⟨frame, opens, same⟩
        · exact .stays (fun keyword here => Option.some.inj here ▸ ignores) same
        · exact .enters rfl (congrArg some opens) same
      unfold add at added
      dsimp only at added
      split at added
      · next block blocks opened =>
          split at added
          · next turns =>
              obtain ⟨turn, turned, same⟩ := Except.bind_eq_ok_iff.1 added
              -- The mark of the tag tells what the turn is.
              rw [OpenBlock.isTurn_iff] at turns
              have simulated : (block.turn assembly.body _).toOption = _ :=
                OpenBlock.toOption_turn config turns
              rw [turned, Except.toOption_ok, eq_comm, Option.bind_eq_some_iff] at simulated
              obtain ⟨mark, reads, made⟩ := simulated
              have keyword := Tag.keyword_mem_of_mark? reads
              rcases Frame.kind_of_turn? made with ⟨frame, rfl, kind_eq, unclosing⟩ |
                ⟨node, rfl, rfl⟩
              · have isTurn := Tag.isTurn_of_mark? reads (Frame.turnKeywords_subset _ turns)
                cases same
                refine .branches (fun _ here => Option.some.inj here ▸ ?_) opened kind_eq rfl
                exact Mark.ignores_of_isTurn isTurn unclosing keyword
              · cases same
                exact .closes opened (congrArg some (List.mem_singleton.1 keyword)) rfl
          · exact outside added
      · exact outside added

/-! ## The tags of open blocks -/

/--
The blocks that are open behind segments, innermost first: the tag of each
stands among them, and what is opened behind this tag, up to that of the next
block, is closed again.
-/
inductive Opened : List Segment → List OpenBlock → Prop
  | none {segments : List Segment} (balanced : Segment.Balanced segments) : Opened segments []
  | inside {before after : List Segment} {inner : List Char} {block : OpenBlock}
      {blocks : List OpenBlock} (outer : Opened before blocks)
      (balanced : Segment.Balanced after)
      (opens : (Segment.block inner block.position).keyword? = some block.frame.kind.opener)
      (keyword_eq : block.keyword = block.frame.kind.opener) :
      Opened (before ++ .block inner block.position :: after) (block :: blocks)

namespace Opened

variable {segments more : List Segment} {blocks : List OpenBlock}

/-- Segments that keep others balanced keep all blocks open. -/
theorem extend (opened : Opened segments blocks)
    (balances : ∀ before, Segment.Balanced before → Segment.Balanced (before ++ more)) :
    Opened (segments ++ more) blocks := by
  cases opened with
  | none balanced => exact .none (balances _ balanced)
  | inside outer balanced opens keyword_eq =>
      rw [List.append_assoc, List.cons_append]
      exact .inside outer (balances _ balanced) opens keyword_eq

theorem step {assembly next : Assembly} {segment : Segment}
    (opened : Opened segments assembly.blocks) (steps : assembly.Steps segment next) :
    Opened (segments ++ [segment]) next.blocks := by
  cases steps with
  | stays ignores blocks_eq =>
      rw [blocks_eq]
      exact opened.extend fun _ balanced => .concat balanced ignores
  | @branches block blocks frame ignores block_eq kind_eq blocks_eq =>
      rw [block_eq] at opened
      rw [blocks_eq]
      -- The block keeps its tag: a branch changes neither its keyword nor its family.
      have extended := opened.extend fun _ balanced => .concat balanced ignores
      generalize segments ++ [segment] = segments at extended ⊢
      cases extended with
      | inside outer balanced opens keyword_eq =>
          rw [← kind_eq] at opens keyword_eq
          exact @inside _ _ _ { block with frame } _ outer balanced opens keyword_eq
  | enters segment_eq opens blocks_eq =>
      subst segment_eq
      rw [blocks_eq]
      exact @inside _ _ _ ⟨_, _, _, assembly.reversed⟩ _ opened .nil opens rfl
  | closes block_eq closes blocks_eq =>
      rw [block_eq] at opened
      rw [blocks_eq]
      cases opened with
      | inside outer balanced opens keyword_eq =>
          rw [List.append_assoc]
          refine outer.extend fun before balancedBefore => ?_
          rw [← List.append_assoc]
          exact .block balancedBefore balanced opens closes

theorem keyword_eq {block : OpenBlock} (opened : Opened segments (block :: blocks)) :
    block.keyword = block.frame.kind.opener := by
  cases opened with
  | inside outer balanced opens keyword_eq => exact keyword_eq

/-- Each open block has a tag of its own. -/
theorem length_le (opened : Opened segments blocks) :
    blocks.length ≤ segments.countP Segment.isOpener := by
  induction opened with
  | none balanced => exact Nat.zero_le _
  | @inside before after inner block blocks outer balanced opens keyword_eq ih =>
      have here : (Segment.block inner block.position).isOpener := by
        rw [Segment.isOpener, opens, Option.any_some, decide_eq_true_iff]
        exact BlockKind.mem_openers_iff.2 ⟨_, rfl⟩
      rw [List.countP_append, List.countP_cons, if_pos here, List.length_cons]
      omega

end Opened

/-- The blocks that are open behind segments were opened by tags among them. -/
theorem opened_of_foldlM_add {config : Config} {before segments : List Segment}
    {assembly next : Assembly} (opened : Opened before assembly.blocks)
    (added : segments.foldlM (add config) assembly = .ok next) :
    Opened (before ++ segments) next.blocks := by
  induction segments generalizing before assembly with
  | nil =>
      cases added
      rwa [List.append_nil]
  | cons segment segments ih =>
      rw [List.foldlM_cons] at added
      obtain ⟨between, first, later⟩ := Except.bind_eq_ok_iff.1 added
      have opened := ih (opened.step (steps_of_add first)) later
      rwa [List.append_assoc, List.singleton_append] at opened

/-- The tags of open blocks stand one behind the other, the innermost last. -/
theorem Opened.position_lt {segments : List Segment} {block outer : OpenBlock}
    {blocks : List OpenBlock} (opened : Opened segments (block :: outer :: blocks))
    (ordered : (segments.filterMap Segment.position?).Pairwise (· < ·)) :
    outer.position < block.position := by
  cases opened with
  | inside around balanced opens keyword_eq =>
      cases around with
      | @inside before after inner outer blocks around balanced opens keyword_eq =>
          rw [List.filterMap_append, List.pairwise_append] at ordered
          refine ordered.2.2 _ ?_ _ ?_
          · exact List.mem_filterMap.2 ⟨.block inner outer.position, by simp, rfl⟩
          · exact List.mem_filterMap.2 ⟨_, List.mem_cons_self, rfl⟩

end Assembly

end Stencil
