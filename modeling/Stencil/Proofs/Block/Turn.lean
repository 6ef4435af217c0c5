import Stencil.Proofs.Block.Outline
import Stencil.Proofs.Node.Walk

/-!
# What a turn writes

A mark that turns a block is what its walk has behind the walk so far, whether
the mark begins a new branch or closes the block.
-/

namespace Stencil

namespace Frame

open Node

/-- The marks of a block up to the body of its present branch. -/
def opening : Frame → List Mark
  | .conditional _ branches condition =>
      walkBranches true branches ++ [Branch.mark branches.isEmpty condition]
  | .preamble subject => [.caseTag subject]
  | .case subject cases values => .caseTag subject :: walkCases cases ++ [.whenTag values]
  | .otherwise subject cases => .caseTag subject :: walkCases cases ++ [.elseTag]
  | .capture name => [.captureTag name]

/-- The marks of a block with the body of its present branch. -/
def written (frame : Frame) (body : List Node) : List Mark :=
  frame.opening ++ if frame.isPreamble then [] else walkBody body

/-- The branches of a frame have the shape that the node of the block will need. -/
def Sound : Frame → Prop
  | .conditional negated branches condition =>
      Conditions negated (branches.map Branch.condition ++ [condition]) ∧
        EverywhereBranches Shaped branches
  | .case _ cases _ | .otherwise _ cases => EverywhereCases Shaped cases
  | .preamble _ | .capture _ => True

end Frame

namespace Turn

/-- The marks of a block after a turn. -/
def walk : Turn → List Mark
  | .branch frame => frame.opening
  | .close node => node.walk

def Sound : Turn → Prop
  | .branch frame => frame.Sound ∧ ¬ frame.isPreamble
  | .close node => node.Everywhere Node.Shaped ∧ ¬ node.isText

end Turn

namespace Frame

open Node

theorem eq_of_close? {kind : BlockKind} {node : Node} {mark : Mark} {turn : Turn}
    (turns : close? kind node mark = some turn) :
    turn = .close node ∧ mark = .closing kind := by
  cases mark with
  | closing other =>
      simp only [close?] at turns
      split_ifs at turns with same
      exact ⟨(Option.some.inj turns).symm, by rw [same]⟩
  | _ => cases turns

theorem spec_of_turnCase? {subject : Expr} {cases : List (When Node)} {mark : Mark} {turn : Turn}
    (sound : EverywhereCases Shaped cases) (turns : turnCase? subject cases mark = some turn) :
    turn.Sound ∧ turn.walk = .caseTag subject :: walkCases cases ++ [mark] := by
  unfold turnCase? at turns
  split at turns
  · cases turns
    exact ⟨⟨sound, by simp [isPreamble]⟩, rfl⟩
  · cases turns
    exact ⟨⟨sound, by simp [isPreamble]⟩, rfl⟩
  · obtain ⟨rfl, rfl⟩ := eq_of_close? turns
    exact ⟨⟨⟨trivial, sound⟩, by simp [isText]⟩, rfl⟩

theorem spec_of_turnConditional? {negated : Bool} {branches : List (Branch Node)}
    {condition : Option Expr} {body : List Node} {mark : Mark} {turn : Turn}
    (sound : (Frame.conditional negated branches condition).Sound)
    (shaped : EverywhereBody Shaped body)
    (turns : turnConditional? negated (branches ++ [⟨condition, body⟩]) condition mark =
      some turn) :
    turn.Sound ∧
      turn.walk = (Frame.conditional negated branches condition).written body ++ [mark] := by
  obtain ⟨shape, branches_sound⟩ := sound
  have bodies : EverywhereBranches Shaped (branches ++ [⟨condition, body⟩]) :=
    everywhereBranches_append.2 ⟨branches_sound, shaped, trivial⟩
  have conditions : (branches ++ [(⟨condition, body⟩ : Branch Node)]).map Branch.condition =
      branches.map Branch.condition ++ [condition] := by
    rw [List.map_append, List.map_cons, List.map_nil]
  have written_eq : (Frame.conditional negated branches condition).written body =
      walkBranches true (branches ++ [⟨condition, body⟩]) := by
    rw [walkBranches_concat]
    simp [written, opening, isPreamble]
  rw [written_eq]
  unfold turnConditional? at turns
  split at turns
  · split_ifs at turns with conditioned
    cases turns
    refine ⟨⟨⟨?_, bodies⟩, by simp [isPreamble]⟩, by simp [Turn.walk, opening]⟩
    rw [conditions]
    exact shape.concat conditioned fun _ => rfl
  · split_ifs at turns with allowed
    cases turns
    refine ⟨⟨⟨?_, bodies⟩, by simp [isPreamble]⟩, ?_⟩
    · rw [conditions]
      exact shape.concat allowed.1 fun negates => by simp [allowed.2] at negates
    · have later : (branches ++ [(⟨condition, body⟩ : Branch Node)]).isEmpty = false := by simp
      rw [Turn.walk, opening, later, Branch.mark_later]
  · obtain ⟨rfl, rfl⟩ := eq_of_close? turns
    rw [← conditions] at shape
    refine ⟨⟨⟨⟨negated, shape⟩, bodies⟩, by simp [isText]⟩, ?_⟩
    rw [Turn.walk, walk, Branch.negated_eq shape]

theorem all_isText_of_turn? {frame : Frame} {body : List Node} {mark : Mark} {turn : Turn}
    (preamble : frame.isPreamble) (turns : frame.turn? body mark = some turn) :
    body.all isText := by
  cases frame with
  | preamble subject =>
      rw [turn?] at turns
      split_ifs at turns with onlyText
      exact onlyText
  | _ => cases preamble

/-- What a turn makes of a block has the marks of the block and of the turn. -/
theorem spec_of_turn? {frame : Frame} {body : List Node} {mark : Mark} {turn : Turn}
    (sound : frame.Sound) (shaped : EverywhereBody Shaped body)
    (turns : frame.turn? body mark = some turn) :
    turn.Sound ∧ turn.walk = frame.written body ++ [mark] := by
  cases frame with
  | conditional negated branches condition =>
      exact spec_of_turnConditional? sound shaped turns
  | preamble subject =>
      rw [turn?] at turns
      split_ifs at turns with onlyText
      exact @spec_of_turnCase? subject [] mark turn trivial turns
  | case subject cases values =>
      have cases_sound : EverywhereCases Shaped (cases ++ [⟨values, body⟩]) :=
        everywhereCases_append.2 ⟨sound, shaped, trivial⟩
      have spec := spec_of_turnCase? cases_sound turns
      refine ⟨spec.1, ?_⟩
      rw [spec.2, walkCases_concat]
      simp [written, opening, isPreamble]
  | otherwise subject cases =>
      obtain ⟨rfl, rfl⟩ := eq_of_close? turns
      refine ⟨⟨⟨trivial, sound, shaped⟩, by simp [isText]⟩, ?_⟩
      simp [Turn.walk, walk, written, opening, isPreamble]
  | capture name =>
      obtain ⟨rfl, rfl⟩ := eq_of_close? turns
      exact ⟨⟨⟨trivial, shaped⟩, by simp [isText]⟩, rfl⟩

end Frame

end Stencil
