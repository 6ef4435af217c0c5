import Stencil.Proofs.Syntax.Foreseen

/-!
# Blocks without stray trees

Putting segments together fails with a problem that a source can have, or not at
all: every tag is read by the rule whose trees its arguments have.
-/

namespace Stencil

open Checked (Fails)

namespace Checked.Fails

variable {α β : Type} {allowed : Located Problem → Prop}

theorem ite {condition : Prop} [Decidable condition] {first second : Checked α}
    (fails : Fails allowed first) (otherwise : Fails allowed second) :
    Fails allowed (if condition then first else second) := by
  split
  · exact fails
  · exact otherwise

theorem foldlM {step : β → α → Checked β} (steps : ∀ state item, Fails allowed (step state item))
    (items : List α) (state : β) : Fails allowed (items.foldlM step state) := by
  induction items generalizing state with
  | nil => exact .ok state
  | cons item items ih => exact .bind (steps state item) fun next _ => ih next

end Checked.Fails

theorem Tag.foreseen_expectAlone (tag : Tag) : Fails Foreseen tag.expectAlone :=
  .ite (.ok ()) (.fail nofun)

namespace OpenBlock

variable {tag : Tag}

theorem foreseen_expectOnlyText (block : OpenBlock) (body : List Node) :
    Fails Foreseen (block.expectOnlyText body) :=
  .ite (.ok ()) (.fail nofun)

theorem foreseen_unclosed (block : OpenBlock) (body : List Node) :
    Fails Foreseen (block.unclosed body) := by
  unfold unclosed
  split
  · exact .bind (block.foreseen_expectOnlyText body) fun _ _ => .fail nofun
  · exact .bind (.ok ()) fun _ _ => .fail nofun

theorem foreseen_turnCase (subject : Expr) (cases : List (When Node)) :
    Fails Foreseen (turnCase subject cases tag) := by
  unfold turnCase
  exact .ite (.bind TagInside.foreseen_values fun _ _ => .ok _) <|
    .ite (.bind tag.foreseen_expectAlone fun _ _ => .ok _)
      (.bind tag.foreseen_expectAlone fun _ _ => .ok _)

theorem foreseen_turn (block : OpenBlock) (body : List Node) :
    Fails Foreseen (block.turn body tag) := by
  cases shape : block.frame with
  | conditional negated branches condition =>
      simp only [turn, shape]
      exact .ite (.bind tag.foreseen_expectAlone fun _ _ => .ok _) <| .ite (.fail nofun) <|
        .ite (.bind tag.foreseen_expectAlone fun _ _ => .ok _)
          (.bind TagInside.foreseen_condition fun _ _ => .ok _)
  | preamble subject =>
      simp only [turn, shape]
      exact .bind (block.foreseen_expectOnlyText body) fun _ _ => foreseen_turnCase _ _
  | case subject cases values =>
      simp only [turn, shape]
      exact foreseen_turnCase _ _
  | otherwise subject cases =>
      simp only [turn, shape]
      exact .ite (.bind tag.foreseen_expectAlone fun _ _ => .ok _) (.fail nofun)
  | capture name =>
      simp only [turn, shape]
      exact .bind tag.foreseen_expectAlone fun _ _ => .ok _

end OpenBlock

namespace Assembly

theorem foreseen_addTag (config : Config) (assembly : Assembly) (tag : Tag) :
    Fails Foreseen (assembly.addTag config tag) := by
  unfold addTag
  refine .ite ?_ (.ite ?_ (.ite ?_ (.ite ?_ (.ite ?_ (.ite ?_ (.ite ?_ ?_))))))
  · exact .bind TagInside.foreseen_condition fun _ _ => .ok _
  · exact .bind TagInside.foreseen_condition fun _ _ => .ok _
  · exact .bind TagInside.foreseen_subject fun _ _ => .ok _
  · exact .bind TagInside.foreseen_captureName fun _ _ => .ok _
  · exact .bind (TagInside.foreseen_assignment _) fun _ _ => .ok _
  · exact .fail nofun
  · exact .fail nofun
  · split
    · dsimp only
      split
      · exact .ok _
      · exact .fail nofun
    · exact .ite (.fail nofun) (.fail nofun)

theorem foreseen_add (config : Config) (assembly : Assembly) (segment : Segment) :
    Fails Foreseen (assembly.add config segment) := by
  unfold add
  split
  · exact .ok _
  · exact .bind (TagInside.foreseen_output _) fun _ _ => .ok _
  · dsimp only
    split
    · refine .ite (.bind (OpenBlock.foreseen_turn _ _) fun turn _ => ?_)
        (assembly.foreseen_addTag config _)
      cases turn <;> exact .ok _
    · exact assembly.foreseen_addTag config _

theorem foreseen_finish (assembly : Assembly) : Fails Foreseen assembly.finish := by
  unfold finish
  split
  · exact .ok _
  · exact OpenBlock.foreseen_unclosed _ _

end Assembly

namespace Node

theorem foreseen_ofSegments (config : Config) (segments : List Segment) :
    Fails Foreseen (ofSegments config segments) :=
  .bind (.foldlM (Assembly.foreseen_add config) segments _) fun assembly _ =>
    assembly.foreseen_finish

/-- A source is compiled, or has a problem that a source can have. -/
theorem foreseen_compile (config : Config) (source : List Char) :
    Fails Foreseen (compile config source) := by
  unfold compile
  cases Segment.scan source with
  | ok segments => exact foreseen_ofSegments config segments
  | error failure =>
      obtain ⟨kind, position⟩ := failure
      cases kind <;> exact .fail nofun

end Node

end Stencil
