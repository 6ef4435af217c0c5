import Stencil.Proofs.Mark

/-!
# Outlines

Blocks are put together from marks alone: an outline is an assembly without
keywords and positions, whose steps report nothing of what is wrong.
-/

namespace Stencil

namespace Frame

def kind : Frame → BlockKind
  | .conditional negated _ _ => .conditional negated
  | .preamble _ | .case _ _ _ | .otherwise _ _ => .switch
  | .capture _ => .capture

def isPreamble : Frame → Bool
  | .preamble _ => true
  | _ => false

/-- The keywords of the tags that continue or close a block. -/
def turnKeywords : Frame → List String
  | .conditional false _ _ => ["endif", "elseif", "elsif", "else"]
  | .conditional true _ _ => ["endunless", "else"]
  | .preamble _ | .case _ _ _ | .otherwise _ _ => ["endcase", "when", "else"]
  | .capture _ => ["endcapture"]

theorem turnKeywords_subset (frame : Frame) : frame.turnKeywords ⊆ Tag.turnKeywords := by
  cases frame with
  | conditional negated branches condition =>
      cases negated <;> simp [turnKeywords, Tag.turnKeywords]
  | _ => simp [turnKeywords, Tag.turnKeywords]

/-- A block of one family becomes a node by its closing tag only. -/
def close? (kind : BlockKind) (node : Node) : Mark → Option Turn
  | .closing other => if other = kind then some (.close node) else none
  | _ => none

/-- The turn of a case by a mark, after the cases that are complete. -/
def turnCase? (subject : Expr) (cases : List (When Node)) : Mark → Option Turn
  | .whenTag values => some (.branch (.case subject cases values))
  | .elseTag => some (.branch (.otherwise subject cases))
  | mark => close? .switch (.switch subject cases none) mark

/-- The turn of a conditional by a mark, after branches of which the last has `condition`. -/
def turnConditional? (negated : Bool) (branches : List (Branch Node)) (condition : Option Expr) :
    Mark → Option Turn
  | .elseTag =>
      if condition.isSome then some (.branch (.conditional negated branches none)) else none
  | .elseIf next =>
      if condition.isSome ∧ negated = false then
        some (.branch (.conditional negated branches (some next)))
      else
        none
  | mark => close? (.conditional negated) (.conditional branches) mark

/-- The turn of a block by a mark that continues or closes it, after the body of a branch. -/
def turn? (body : List Node) : Frame → Mark → Option Turn
  | .conditional negated branches condition =>
      turnConditional? negated (branches ++ [⟨condition, body⟩]) condition
  | .preamble subject => if body.all Node.isText then turnCase? subject [] else fun _ => none
  | .case subject cases values => turnCase? subject (cases ++ [⟨values, body⟩])
  | .otherwise subject cases => close? .switch (.switch subject cases (some body))
  | .capture name => close? .capture (.capture name body)

theorem keywords_of_close? {kind : BlockKind} {node : Node} {mark : Mark} {turn : Turn}
    (turns : close? kind node mark = some turn) : mark.keywords = [kind.closer] := by
  cases mark with
  | closing other =>
      simp only [close?] at turns
      split_ifs at turns with same
      rw [same, Mark.keywords]
  | _ => cases turns

theorem keywords_subset_of_turnCase? {subject : Expr} {cases : List (When Node)} {mark : Mark}
    {turn : Turn} (turns : turnCase? subject cases mark = some turn) :
    mark.keywords ⊆ (Frame.preamble subject).turnKeywords := by
  unfold turnCase? at turns
  split at turns
  · simp [Mark.keywords, turnKeywords]
  · simp [Mark.keywords, turnKeywords]
  · rw [keywords_of_close? turns]
    simp [turnKeywords, BlockKind.closer]

theorem keywords_subset_of_turnConditional? {negated : Bool}
    {before branches : List (Branch Node)} {condition : Option Expr} {mark : Mark} {turn : Turn}
    (turns : turnConditional? negated branches condition mark = some turn) :
    mark.keywords ⊆ (Frame.conditional negated before condition).turnKeywords := by
  unfold turnConditional? at turns
  split at turns
  · cases negated <;> simp [Mark.keywords, turnKeywords]
  · split_ifs at turns with allowed
    simp [Mark.keywords, turnKeywords, allowed.2]
  · rw [keywords_of_close? turns]
    cases negated <;> simp [turnKeywords, BlockKind.closer]

/-- The keyword of a tag tells whether it can turn a block. -/
theorem keywords_subset_of_turn? {frame : Frame} {body : List Node} {mark : Mark} {turn : Turn}
    (turns : frame.turn? body mark = some turn) : mark.keywords ⊆ frame.turnKeywords := by
  cases frame with
  | conditional negated branches condition =>
      exact keywords_subset_of_turnConditional? turns
  | preamble subject =>
      rw [turn?] at turns
      split_ifs at turns
      exact keywords_subset_of_turnCase? turns
  | case subject cases values => exact keywords_subset_of_turnCase? turns
  | otherwise subject cases =>
      rw [keywords_of_close? turns]
      simp [turnKeywords, BlockKind.closer]
  | capture name =>
      rw [keywords_of_close? turns]
      simp [turnKeywords, BlockKind.closer]

end Frame

/-- A block that is open, and the nodes before it, the last one first. -/
structure Enclosing where
  frame : Frame
  before : List Node

/--
The nodes so far of the innermost block, the last one first, and the blocks
that are open, innermost first.
-/
structure Outline where
  reversed : List Node
  blocks : List Enclosing

namespace Outline

def empty : Outline :=
  ⟨[], []⟩

def body (outline : Outline) : List Node :=
  outline.reversed.reverse

def push (outline : Outline) (node : Node) : Outline :=
  { outline with reversed := node :: outline.reversed }

def enter (outline : Outline) (frame : Frame) : Outline :=
  ⟨[], ⟨frame, outline.reversed⟩ :: outline.blocks⟩

/-- The outline after a turn of a block, whose enclosing blocks are given. -/
def resume (block : Enclosing) (blocks : List Enclosing) : Turn → Outline
  | .branch frame => ⟨[], { block with frame } :: blocks⟩
  | .close node => ⟨node :: block.before, blocks⟩

/-- The outline after a mark that turns the innermost block. -/
def turn? (outline : Outline) (mark : Mark) : Option Outline :=
  match outline.blocks with
  | [] => none
  | block :: blocks => (block.frame.turn? outline.body mark).map (resume block blocks)

/-- The outline after one more mark. -/
def add (outline : Outline) : Mark → Option Outline
  | .text content => some (outline.push (.text content))
  | .output value => some (outline.push (.output value))
  | .assign name value => some (outline.push (.assign name value))
  | .custom name markup => some (outline.push (.custom name markup))
  | .ifTag negated condition =>
      let condition := if negated then .not condition else condition
      some (outline.enter (.conditional negated [] (some condition)))
  | .caseTag subject => some (outline.enter (.preamble subject))
  | .captureTag name => some (outline.enter (.capture name))
  | mark => outline.turn? mark

theorem add_of_isTurn {outline : Outline} {mark : Mark} (isTurn : mark.isTurn) :
    outline.add mark = outline.turn? mark := by
  cases mark <;> first | rfl | cases isTurn

/-- The nodes of an outline in which no block is open. -/
def finish? (outline : Outline) : Option (List Node) :=
  if outline.blocks.isEmpty then some outline.body else none

/-- The nodes of marks. -/
def build (marks : List Mark) : Option (List Node) :=
  (marks.foldlM add empty).bind finish?

end Outline

end Stencil
