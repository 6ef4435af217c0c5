import Mathlib.Data.List.Forall2
import Mathlib.Tactic.SplitIfs
import Stencil.Proofs.Syntax.Position

/-!
# Blocks apart from positions

Where segments stand, and how many blanks stand in a tag between its keyword and
its arguments, neither shows in what they are put together to nor in the reason
why they cannot be.
-/

namespace Stencil

open Checked (alike_fail)

namespace Tag

/-- Two tags that agree in everything but their positions. -/
structure Alike (tag other : Tag) : Prop where
  keyword_eq : tag.keyword = other.keyword
  arguments_eq : tag.arguments.text = other.arguments.text

theorem Alike.exists_eq {tag other : Tag} (alike : tag.Alike other) :
    ∃ position start, other = ⟨tag.keyword, position, ⟨tag.arguments.text, start⟩⟩ := by
  obtain ⟨keyword, position, text, start⟩ := other
  obtain ⟨rfl, rfl⟩ := alike
  exact ⟨position, start, rfl⟩

variable {tag other : Tag} (alike : tag.Alike other)

include alike

theorem Alike.alike_expectAlone : Located.Alike Eq tag.expectAlone other.expectAlone := by
  obtain ⟨position, start, rfl⟩ := alike.exists_eq
  unfold expectAlone
  dsimp only
  split_ifs
  · exact .ok rfl
  · exact alike_fail _ _ _

end Tag

namespace OpenBlock

/-- Two blocks that agree in everything but the positions of their tags. -/
structure Alike (block other : OpenBlock) : Prop where
  keyword_eq : block.keyword = other.keyword
  frame_eq : block.frame = other.frame
  before_eq : block.before = other.before

theorem Alike.exists_eq {block other : OpenBlock} (alike : block.Alike other) :
    ∃ position, other = { block with position } := by
  obtain ⟨keyword, position, frame, before⟩ := other
  obtain ⟨rfl, rfl, rfl⟩ := alike
  exact ⟨position, rfl⟩

section

variable {block other : OpenBlock} (alike : block.Alike other) (body : List Node)

include alike

theorem Alike.alike_expectOnlyText :
    Located.Alike Eq (block.expectOnlyText body) (other.expectOnlyText body) := by
  obtain ⟨position, rfl⟩ := alike.exists_eq
  unfold expectOnlyText
  split
  · exact .ok rfl
  · exact alike_fail _ _ _

theorem Alike.alike_unclosed :
    Located.Alike Eq (block.unclosed body) (other.unclosed body) := by
  have onlyText := alike.alike_expectOnlyText body
  obtain ⟨position, rfl⟩ := alike.exists_eq
  unfold unclosed
  cases block.frame with
  | preamble subject => exact onlyText.bind_eq fun _ => alike_fail _ _ _
  | _ => exact alike_fail _ _ _

end

variable {tag other : Tag} (alike : tag.Alike other)

include alike

theorem alike_turnCase (subject : Expr) (cases : List (When Node)) :
    Located.Alike Eq (turnCase subject cases tag) (turnCase subject cases other) := by
  have alone := alike.alike_expectAlone
  obtain ⟨position, start, rfl⟩ := alike.exists_eq
  unfold turnCase
  dsimp only
  split_ifs
  · exact (TagInside.alike_values _ _ _).bind_eq fun _ => .ok rfl
  · exact alone.bind_eq fun _ => .ok rfl
  · exact alone.bind_eq fun _ => .ok rfl

theorem alike_turn {block place : OpenBlock} (same : block.Alike place) (body : List Node) :
    Located.Alike Eq (block.turn body tag) (place.turn body other) := by
  have onlyText := same.alike_expectOnlyText body
  have alone := alike.alike_expectAlone
  have turnCase (subject : Expr) (cases : List (When Node)) :=
    alike_turnCase alike subject cases
  obtain ⟨opened, rfl⟩ := same.exists_eq
  obtain ⟨position, start, rfl⟩ := alike.exists_eq
  unfold turn
  dsimp only
  split
  · split_ifs
    · exact alone.bind_eq fun _ => .ok rfl
    · exact alike_fail _ _ _
    · exact alone.bind_eq fun _ => .ok rfl
    · exact (TagInside.alike_condition _ _ _).bind_eq fun _ => .ok rfl
  · exact onlyText.bind_eq fun _ => turnCase _ _
  · exact turnCase _ _
  · split_ifs
    · exact alone.bind_eq fun _ => .ok rfl
    · exact alike_fail _ _ _
  · exact alone.bind_eq fun _ => .ok rfl

end OpenBlock

namespace Segment

/--
Two segments that say the same: texts and outputs with the same content, and
tags with the same keyword and the same arguments.
-/
inductive Alike : Segment → Segment → Prop
  | text (content : List Char) : Alike (.text content) (.text content)
  | output (inner : List Char) (position other : Nat) :
      Alike (.output inner position) (.output inner other)
  | block {inner another : List Char} (position other : Nat)
      (keyword_eq : Text.untilBlank inner = Text.untilBlank another)
      (arguments_eq : Text.trimStart (Text.fromBlank inner) =
        Text.trimStart (Text.fromBlank another)) :
      Alike (.block inner position) (.block another other)

end Segment

namespace Assembly

/-- Two assemblies that agree in everything but the positions of the blocks that are open. -/
structure Alike (assembly other : Assembly) : Prop where
  reversed_eq : assembly.reversed = other.reversed
  blocks : List.Forall₂ OpenBlock.Alike assembly.blocks other.blocks

namespace Alike

variable {assembly other : Assembly} (alike : assembly.Alike other)

include alike

theorem push (node : Node) : (assembly.push node).Alike (other.push node) :=
  ⟨congrArg (node :: ·) alike.reversed_eq, alike.blocks⟩

theorem enter {tag place : Tag} (same : tag.Alike place) (frame : Frame) :
    (assembly.enter tag frame).Alike (other.enter place frame) :=
  ⟨rfl, .cons ⟨same.keyword_eq, rfl, alike.reversed_eq⟩ alike.blocks⟩

theorem body_eq : assembly.body = other.body :=
  congrArg List.reverse alike.reversed_eq

theorem within_eq : assembly.within = other.within := by
  obtain ⟨reversed, blocks⟩ := assembly
  obtain ⟨others, places⟩ := other
  cases alike.blocks with
  | nil => rfl
  | cons here _ => exact congrArg some here.keyword_eq

theorem addTag (config : Config) {tag place : Tag} (same : tag.Alike place) :
    Located.Alike Alike (assembly.addTag config tag) (other.addTag config place) := by
  have entered := alike.enter same
  have pushed := alike.push
  have within := alike.within_eq
  obtain ⟨position, start, rfl⟩ := same.exists_eq
  unfold Assembly.addTag
  dsimp only
  split_ifs
  · exact (TagInside.alike_condition _ _ _).bind_eq fun _ => .ok (entered _)
  · exact (TagInside.alike_condition _ _ _).bind_eq fun _ => .ok (entered _)
  · exact (TagInside.alike_subject _ _ _).bind_eq fun _ => .ok (entered _)
  · exact (TagInside.alike_captureName _ _ _).bind_eq fun _ => .ok (entered _)
  · exact (TagInside.alike_assignment _ _ _ _).bind_eq fun _ => .ok (pushed _)
  · exact alike_fail _ _ _
  · rw [within]
    exact alike_fail _ _ _
  · split
    · split
      · exact .ok (pushed _)
      · exact alike_fail _ _ _
    · rw [within]
      exact alike_fail _ _ _
  · split
    · split
      · exact .ok (pushed _)
      · exact alike_fail _ _ _
    · exact alike_fail _ _ _

theorem add (config : Config) {segment another : Segment} (same : segment.Alike another) :
    Located.Alike Alike (assembly.add config segment) (other.add config another) := by
  cases same with
  | text content => exact .ok (alike.push _)
  | output inner position place =>
      exact (TagInside.alike_output _ _ _ _).bind_eq fun _ => .ok (alike.push _)
  | @block inner another position place keyword_eq arguments_eq =>
      have tags : (Tag.ofInside inner position).Alike (Tag.ofInside another place) :=
        ⟨congrArg String.ofList keyword_eq, arguments_eq⟩
      have stays := alike.addTag config tags
      have body_eq := alike.body_eq
      obtain ⟨reversed, blocks⟩ := assembly
      obtain ⟨others, places⟩ := other
      unfold Assembly.add
      cases alike.blocks with
      | nil => exact stays
      | @cons block twin blocks places here later =>
          have turns : twin.isTurn (Tag.ofInside another place).keyword =
              block.isTurn (Tag.ofInside inner position).keyword := by
            rw [OpenBlock.isTurn, OpenBlock.isTurn, here.frame_eq, tags.keyword_eq]
          dsimp only at turns ⊢
          rw [turns]
          split_ifs
          · rw [← body_eq]
            refine (OpenBlock.alike_turn tags here _).bind_eq fun turn => ?_
            cases turn with
            | branch frame => exact .ok ⟨rfl, .cons ⟨here.keyword_eq, rfl, here.before_eq⟩ later⟩
            | close node => exact .ok ⟨congrArg (node :: ·) here.before_eq, later⟩
          · exact stays

theorem foldlM_add (config : Config) {segments others : List Segment}
    (same : List.Forall₂ Segment.Alike segments others) :
    Located.Alike Alike (segments.foldlM (Assembly.add config) assembly)
      (others.foldlM (Assembly.add config) other) := by
  induction same generalizing assembly other with
  | nil => exact .ok alike
  | cons here _ ih =>
      rw [List.foldlM_cons, List.foldlM_cons]
      exact (alike.add config here).bind fun _ _ next => ih next

theorem finish : Located.Alike Eq assembly.finish other.finish := by
  have body_eq := alike.body_eq
  obtain ⟨reversed, blocks⟩ := assembly
  obtain ⟨others, places⟩ := other
  unfold Assembly.finish
  rw [← body_eq]
  cases alike.blocks with
  | nil => exact .ok rfl
  | cons here _ => exact here.alike_unclosed _

end Alike

end Assembly

/-- Segments that say the same have the same nodes, or none for the same reason. -/
theorem Node.alike_ofSegments (config : Config) {segments others : List Segment}
    (same : List.Forall₂ Segment.Alike segments others) :
    Located.Alike Eq (ofSegments config segments) (ofSegments config others) :=
  (Assembly.Alike.foldlM_add ⟨rfl, .nil⟩ config same).bind fun _ _ alike => alike.finish

end Stencil
