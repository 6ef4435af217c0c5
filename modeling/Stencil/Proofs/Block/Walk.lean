import Stencil.Proofs.Block.Turn

/-!
# Outlines keep the order of their marks

At each moment the walk over what has been put together, open blocks included,
is the marks so far.  Only the texts in front of the first branch of a case are
left out; nothing else can stand there in a source that compiles.
-/

namespace Stencil

/-- The marks without the texts between a `case` and the next other mark. -/
def Mark.withoutPreambles (inPreamble : Bool) : List Mark → List Mark
  | [] => []
  | mark :: marks =>
      if inPreamble && mark.isText then
        withoutPreambles true marks
      else
        mark :: withoutPreambles mark.isCase marks

/-- A condition as it is written: only `unless` negates. -/
def Mark.Positive : Mark → Prop
  | .ifTag _ condition => condition.isNegation = false
  | _ => True

namespace Outline

open Node

/-- The marks of the blocks that are open and of what stands before and between them. -/
def walkBlocks : List Enclosing → List Mark
  | [] => []
  | block :: blocks => walkBlocks blocks ++ walkBody block.before.reverse ++ block.frame.opening

def inPreamble (outline : Outline) : Bool :=
  outline.blocks.head?.any fun block => block.frame.isPreamble

/-- The marks of an outline. -/
def walk (outline : Outline) : List Mark :=
  walkBlocks outline.blocks ++ if outline.inPreamble then [] else walkBody outline.body

/-- All that has been put together has the shape it needs. -/
structure Sound (outline : Outline) : Prop where
  reversed : EverywhereBody Shaped outline.reversed.reverse
  blocks : ∀ block ∈ outline.blocks,
    block.frame.Sound ∧ EverywhereBody Shaped block.before.reverse

/--
What every outline of a source that compiles fulfils: nothing but text stands
in front of the first branch of a case.
-/
structure Hopeful (outline : Outline) : Prop where
  onlyText : outline.inPreamble → outline.reversed.all Node.isText
  enclosed : ∀ block ∈ outline.blocks.tail, ¬ block.frame.isPreamble

theorem Sound.push {outline : Outline} (sound : outline.Sound) {node : Node}
    (shaped : node.Everywhere Shaped) : (outline.push node).Sound where
  reversed := by
    rw [Outline.push, List.reverse_cons]
    exact everywhereBody_append.2 ⟨sound.reversed, shaped, trivial⟩
  blocks := sound.blocks

theorem Sound.enter {outline : Outline} (sound : outline.Sound) {frame : Frame}
    (shaped : frame.Sound) : (outline.enter frame).Sound where
  reversed := trivial
  blocks := by
    intro block member
    rcases List.mem_cons.1 member with rfl | outer
    · exact ⟨shaped, sound.reversed⟩
    · exact sound.blocks block outer

/--
How an outline goes on with a mark, when what comes of it is hopeful: the mark
is added to the walk, unless it is a text that is left out.
-/
structure Follows (outline : Outline) (mark : Mark) (next : Outline) : Prop where
  hopeful : outline.Hopeful
  walk_eq : next.walk = outline.walk ++ if outline.inPreamble && mark.isText then [] else [mark]
  inPreamble_eq : next.inPreamble = if outline.inPreamble && mark.isText then true else mark.isCase

theorem inPreamble_eq_false {outline : Outline}
    (enclosed : ∀ block ∈ outline.blocks, ¬ block.frame.isPreamble) :
    outline.inPreamble = false := by
  unfold inPreamble
  cases blocks : outline.blocks with
  | nil => rfl
  | cons block outer =>
      rw [blocks] at enclosed
      simpa using enclosed block List.mem_cons_self

theorem follows_push {outline : Outline} {node : Node} {mark : Mark} (leaf : node.walk = [mark])
    (text : node.isText = mark.isText) (leafMark : mark.isCase = false)
    (hopeful : (outline.push node).Hopeful) : outline.Follows mark (outline.push node) := by
  have same : (outline.push node).inPreamble = outline.inPreamble := rfl
  have onlyText := hopeful.onlyText
  rw [same] at onlyText
  simp only [Outline.push, List.all_cons, Bool.and_eq_true] at onlyText
  refine ⟨⟨fun inside => (onlyText inside).2, hopeful.enclosed⟩, ?_, ?_⟩
  · rw [walk, walk, same]
    cases inside : outline.inPreamble with
    | true => simp [← text, onlyText inside, Outline.push]
    | false => simp [Outline.push, Outline.body, walkBody_concat, leaf]
  · rw [same]
    cases inside : outline.inPreamble with
    | true => simp [← text, onlyText inside]
    | false => simp [leafMark]

theorem follows_enter {outline : Outline} {frame : Frame} {mark : Mark}
    (opens : frame.opening = [mark]) (text : mark.isText = false)
    (preamble : frame.isPreamble = mark.isCase)
    (hopeful : (outline.enter frame).Hopeful) : outline.Follows mark (outline.enter frame) := by
  have enclosed : ∀ block ∈ outline.blocks, ¬ block.frame.isPreamble := hopeful.enclosed
  have outside := inPreamble_eq_false enclosed
  refine ⟨⟨by simp [outside], fun block outer => enclosed block (List.mem_of_mem_tail outer)⟩,
    ?_, ?_⟩
  · simp [walk, outside, Outline.enter, walkBlocks, opens, text, Outline.body, walkBody]
  · simp only [outside, text, Bool.and_false, Bool.false_eq_true, if_false]
    exact preamble

theorem exists_of_turn? {outline next : Outline} {mark : Mark}
    (turns : outline.turn? mark = some next) :
    ∃ block blocks turn, outline.blocks = block :: blocks ∧
      block.frame.turn? outline.body mark = some turn ∧ resume block blocks turn = next := by
  unfold Outline.turn? at turns
  split at turns
  · cases turns
  · next block blocks opened =>
      obtain ⟨turn, taken, resumed⟩ := Option.map_eq_some_iff.1 turns
      exact ⟨block, blocks, turn, opened, taken, resumed⟩

theorem Sound.turn? {outline next : Outline} {mark : Mark} (sound : outline.Sound)
    (turns : outline.turn? mark = some next) : next.Sound := by
  obtain ⟨block, blocks, turn, opened, taken, rfl⟩ := exists_of_turn? turns
  obtain ⟨here, before⟩ := sound.blocks block (by simp [opened])
  have outer (other : Enclosing) (member : other ∈ blocks) :=
    sound.blocks other (by simp [opened, member])
  have spec := Frame.spec_of_turn? here sound.reversed taken
  cases turn with
  | branch frame =>
      refine ⟨trivial, fun other member => ?_⟩
      rcases List.mem_cons.1 member with rfl | member
      · exact ⟨spec.1.1, before⟩
      · exact outer other member
  | close node =>
      refine ⟨?_, outer⟩
      rw [resume, List.reverse_cons]
      exact everywhereBody_append.2 ⟨before, spec.1.1, trivial⟩

theorem walk_of_opened {outline : Outline} {block : Enclosing} {blocks : List Enclosing}
    (opened : outline.blocks = block :: blocks) :
    outline.walk = walkBlocks blocks ++ walkBody block.before.reverse ++
      block.frame.written outline.body := by
  rw [walk, inPreamble, opened, walkBlocks, Frame.written, List.append_assoc _ block.frame.opening]
  rfl

theorem walk_resume {block : Enclosing} {blocks : List Enclosing} {turn : Turn}
    (outside : (resume block blocks turn).inPreamble = false) :
    (resume block blocks turn).walk =
      walkBlocks blocks ++ walkBody block.before.reverse ++ turn.walk := by
  rw [walk, outside]
  cases turn with
  | branch frame => simp [resume, walkBlocks, Outline.body, walkBody, Turn.walk]
  | close node => simp [resume, Outline.body, walkBody_concat, Turn.walk]

/-- No block around one that has been turned is a case before its first branch. -/
theorem Hopeful.of_resume {block : Enclosing} {blocks : List Enclosing} {turn : Turn}
    (hopeful : (resume block blocks turn).Hopeful) (sound : turn.Sound) :
    ∀ other ∈ blocks, ¬ other.frame.isPreamble := by
  cases turn with
  | branch frame => exact hopeful.enclosed
  | close node =>
      cases blocks with
      | nil => simp
      | cons top rest =>
          intro other member
          rcases List.mem_cons.1 member with rfl | outer
          · intro preamble
            have onlyText := hopeful.onlyText preamble
            simp only [resume, List.all_cons, Bool.and_eq_true] at onlyText
            exact sound.2 onlyText.1
          · exact hopeful.enclosed other outer

theorem follows_turn {outline next : Outline} {mark : Mark} (sound : outline.Sound)
    (isTurn : mark.isTurn) (turns : outline.turn? mark = some next) (hopeful : next.Hopeful) :
    outline.Follows mark next := by
  obtain ⟨block, blocks, turn, opened, taken, rfl⟩ := exists_of_turn? turns
  have here := (sound.blocks block (by simp [opened])).1
  have spec := Frame.spec_of_turn? here sound.reversed taken
  have noText : mark.isText = false := by cases mark <;> first | rfl | cases isTurn
  have noCase : mark.isCase = false := by cases mark <;> first | rfl | cases isTurn
  have enclosed := hopeful.of_resume spec.1
  have outside : (resume block blocks turn).inPreamble = false := by
    cases turn with
    | branch frame => simpa [resume, inPreamble] using spec.1.2
    | close node => exact inPreamble_eq_false enclosed
  refine ⟨⟨fun inside => ?_, by rwa [opened]⟩, ?_, by simp [outside, noText, noCase]⟩
  · rw [inPreamble, opened] at inside
    have onlyText := Frame.all_isText_of_turn? inside taken
    rwa [Outline.body, List.all_reverse] at onlyText
  · rw [walk_resume outside, walk_of_opened opened, spec.2]
    simp [noText, Outline.body]

theorem opening_conditional {negated : Bool} {condition : Expr}
    (positive : condition.isNegation = false) :
    (Frame.conditional negated []
      (some (if negated then .not condition else condition))).opening =
        [.ifTag negated condition] := by
  cases negated with
  | true => rfl
  | false => cases condition <;> first | rfl | cases positive

theorem Sound.add {outline next : Outline} {mark : Mark} (sound : outline.Sound)
    (positive : mark.Positive) (added : outline.add mark = some next) : next.Sound := by
  by_cases isTurn : mark.isTurn
  case pos =>
    rw [add_of_isTurn isTurn] at added
    exact sound.turn? added
  cases mark with
  | ifTag negated condition =>
      cases added
      refine sound.enter ⟨Conditions.start ?_, trivial⟩
      cases negated with
      | true => rfl
      | false => exact positive
  | caseTag subject =>
      cases added
      exact sound.enter trivial
  | captureTag name =>
      cases added
      exact sound.enter trivial
  | text content =>
      cases added
      exact sound.push trivial
  | output value =>
      cases added
      exact sound.push trivial
  | assign name value =>
      cases added
      exact sound.push trivial
  | custom name markup =>
      cases added
      exact sound.push trivial
  | _ => exact absurd rfl isTurn

theorem follows_add {outline next : Outline} {mark : Mark} (sound : outline.Sound)
    (positive : mark.Positive) (added : outline.add mark = some next) (hopeful : next.Hopeful) :
    outline.Follows mark next := by
  by_cases isTurn : mark.isTurn
  case pos =>
    rw [add_of_isTurn isTurn] at added
    exact follows_turn sound isTurn added hopeful
  cases mark with
  | ifTag negated condition =>
      cases added
      exact follows_enter (opening_conditional positive) rfl rfl hopeful
  | caseTag subject =>
      cases added
      exact follows_enter rfl rfl rfl hopeful
  | captureTag name =>
      cases added
      exact follows_enter rfl rfl rfl hopeful
  | text content =>
      cases added
      exact follows_push rfl rfl rfl hopeful
  | output value =>
      cases added
      exact follows_push rfl rfl rfl hopeful
  | assign name value =>
      cases added
      exact follows_push rfl rfl rfl hopeful
  | custom name markup =>
      cases added
      exact follows_push rfl rfl rfl hopeful
  | _ => exact absurd rfl isTurn

/-- A run adds its marks to the walk when what comes of it is hopeful. -/
theorem walk_of_foldlM {outline last : Outline} {marks : List Mark} (sound : outline.Sound)
    (positive : ∀ mark ∈ marks, mark.Positive)
    (run : marks.foldlM add outline = some last) (hopeful : last.Hopeful) :
    last.Sound ∧ outline.Hopeful ∧
      last.walk = outline.walk ++ Mark.withoutPreambles outline.inPreamble marks := by
  -- That what comes of it is hopeful is known of the last outline, and goes back mark by mark.
  induction marks generalizing outline with
  | nil =>
      cases run
      exact ⟨sound, hopeful, (List.append_nil _).symm⟩
  | cons mark marks ih =>
      rw [List.foldlM_cons] at run
      obtain ⟨next, added, later⟩ := Option.bind_eq_some_iff.1 run
      have here := positive mark List.mem_cons_self
      obtain ⟨last_sound, next_hopeful, walked⟩ := ih (sound.add here added)
        (fun other member => positive other (List.mem_cons_of_mem _ member)) later
      have follows := follows_add sound here added next_hopeful
      refine ⟨last_sound, follows.hopeful, ?_⟩
      rw [walked, follows.walk_eq, follows.inPreamble_eq, Mark.withoutPreambles,
        List.append_assoc]
      split <;> rfl

theorem walk_of_build {marks : List Mark} {nodes : List Node}
    (positive : ∀ mark ∈ marks, mark.Positive) (built : build marks = some nodes) :
    EverywhereBody Shaped nodes ∧ walkBody nodes = Mark.withoutPreambles false marks := by
  obtain ⟨last, run, finished⟩ := Option.bind_eq_some_iff.1 built
  unfold finish? at finished
  split_ifs at finished with noBlocks
  rw [List.isEmpty_iff] at noBlocks
  cases finished
  have start : empty.Sound := ⟨trivial, by simp [empty]⟩
  have hopeful : last.Hopeful := ⟨by simp [inPreamble, noBlocks], by simp [noBlocks]⟩
  obtain ⟨sound, -, walked⟩ := walk_of_foldlM start positive run hopeful
  refine ⟨sound.reversed, ?_⟩
  simpa [walk, noBlocks, walkBlocks, inPreamble, empty, Outline.body, walkBody] using walked

end Outline

end Stencil
