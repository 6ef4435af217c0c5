import Mathlib.Data.List.Forall2
import Stencil.Proofs.Block.Outline

/-!
# What decides whether marks can be put together

Whether marks make nodes depends on their forms only.  Which texts, names and
expressions they have shows in the nodes, and not in whether there are any.
-/

namespace Stencil

/-- Marks that differ in their texts, names and expressions only. -/
inductive Mark.SameForm : Mark → Mark → Prop
  | text (content other : String) : SameForm (.text content) (.text other)
  | output (value other : Output) : SameForm (.output value) (.output other)
  | assign (name another : String) (value other : Output) :
      SameForm (.assign name value) (.assign another other)
  | custom (name another markup other : String) :
      SameForm (.custom name markup) (.custom another other)
  | ifTag (negated : Bool) (condition other : Expr) :
      SameForm (.ifTag negated condition) (.ifTag negated other)
  | caseTag (subject other : Expr) : SameForm (.caseTag subject) (.caseTag other)
  | captureTag (name other : String) : SameForm (.captureTag name) (.captureTag other)
  | elseIf (condition other : Expr) : SameForm (.elseIf condition) (.elseIf other)
  | elseTag : SameForm .elseTag .elseTag
  | whenTag (values others : List Expr) : SameForm (.whenTag values) (.whenTag others)
  | closing (kind : BlockKind) : SameForm (.closing kind) (.closing kind)

theorem Mark.sameForm_self (mark : Mark) : mark.SameForm mark := by
  cases mark <;> constructor

/-- Blocks that may go on in the same way. -/
inductive Frame.SameForm : Frame → Frame → Prop
  | conditional (negated : Bool) (branches others : List (Branch Node))
      {condition other : Option Expr} (isSome_eq : condition.isSome = other.isSome) :
      SameForm (.conditional negated branches condition) (.conditional negated others other)
  | preamble (subject other : Expr) : SameForm (.preamble subject) (.preamble other)
  | case (subject other : Expr) (cases others : List (When Node)) (values another : List Expr) :
      SameForm (.case subject cases values) (.case other others another)
  | otherwise (subject other : Expr) (cases others : List (When Node)) :
      SameForm (.otherwise subject cases) (.otherwise other others)
  | capture (name other : String) : SameForm (.capture name) (.capture other)

inductive Turn.SameForm : Turn → Turn → Prop
  | branch {frame other : Frame} (same : frame.SameForm other) :
      SameForm (.branch frame) (.branch other)
  | close {node other : Node} (isText_eq : node.isText = other.isText) :
      SameForm (.close node) (.close other)

namespace Frame

variable {mark another : Mark}

theorem sameForm_close? (same : mark.SameForm another) (kind : BlockKind) {node other : Node}
    (isText_eq : node.isText = other.isText) :
    Option.Rel Turn.SameForm (close? kind node mark) (close? kind other another) := by
  cases same with
  | closing known =>
      simp only [close?]
      split
      · exact .some (.close isText_eq)
      · exact .none
  | _ => exact .none

theorem sameForm_turnCase? (same : mark.SameForm another) (subject other : Expr)
    (cases others : List (When Node)) :
    Option.Rel Turn.SameForm (turnCase? subject cases mark) (turnCase? other others another) := by
  cases same with
  | whenTag values place => exact .some (.branch (.case _ _ _ _ _ _))
  | elseTag => exact .some (.branch (.otherwise _ _ _ _))
  | closing kind => exact sameForm_close? (.closing kind) _ rfl
  | _ => exact .none

theorem sameForm_turnConditional? (same : mark.SameForm another) (negated : Bool)
    (branches others : List (Branch Node)) {condition other : Option Expr}
    (isSome_eq : condition.isSome = other.isSome) :
    Option.Rel Turn.SameForm (turnConditional? negated branches condition mark)
      (turnConditional? negated others other another) := by
  cases same with
  | elseTag =>
      simp only [turnConditional?, isSome_eq]
      split
      · exact .some (.branch (.conditional _ _ _ rfl))
      · exact .none
  | elseIf next place =>
      simp only [turnConditional?, isSome_eq]
      split
      · exact .some (.branch (.conditional _ _ _ rfl))
      · exact .none
  | closing kind => exact sameForm_close? (.closing kind) _ rfl
  | _ => exact .none

/-- A block is turned in the same way by marks of the same form. -/
theorem sameForm_turn? {frame other : Frame} {body place : List Node}
    (frames : frame.SameForm other) (same : mark.SameForm another)
    (isText_eq : body.all Node.isText = place.all Node.isText) :
    Option.Rel Turn.SameForm (frame.turn? body mark) (other.turn? place another) := by
  cases frames with
  | conditional negated branches others isSome_eq =>
      exact sameForm_turnConditional? same negated _ _ isSome_eq
  | preamble subject other =>
      simp only [turn?, isText_eq]
      split
      · exact sameForm_turnCase? same _ _ _ _
      · exact .none
  | case => exact sameForm_turnCase? same _ _ _ _
  | otherwise => exact sameForm_close? same _ rfl
  | capture => exact sameForm_close? same _ rfl

end Frame

/-- Blocks of the same form, behind texts only or behind other nodes too. -/
structure Enclosing.SameForm (block other : Enclosing) : Prop where
  frame : block.frame.SameForm other.frame
  isText_eq : block.before.all Node.isText = other.before.all Node.isText

namespace Outline

structure SameForm (outline other : Outline) : Prop where
  isText_eq : outline.reversed.all Node.isText = other.reversed.all Node.isText
  blocks : List.Forall₂ Enclosing.SameForm outline.blocks other.blocks

variable {outline other : Outline} {mark another : Mark}

theorem SameForm.push (forms : outline.SameForm other) {node place : Node}
    (isText_eq : node.isText = place.isText) :
    (outline.push node).SameForm (other.push place) where
  isText_eq := by simp [Outline.push, isText_eq, forms.isText_eq]
  blocks := forms.blocks

theorem SameForm.enter (forms : outline.SameForm other) {frame place : Frame}
    (frames : frame.SameForm place) : (outline.enter frame).SameForm (other.enter place) where
  isText_eq := rfl
  blocks := .cons ⟨frames, forms.isText_eq⟩ forms.blocks

theorem SameForm.turn? (forms : outline.SameForm other) (same : mark.SameForm another) :
    Option.Rel SameForm (outline.turn? mark) (other.turn? another) := by
  obtain ⟨reversed, blocks⟩ := outline
  obtain ⟨others, places⟩ := other
  obtain ⟨isText_eq, alike⟩ := forms
  cases alike with
  | nil => exact .none
  | @cons block place blocks places here later =>
      have body_eq : reversed.reverse.all Node.isText = others.reverse.all Node.isText := by
        rwa [List.all_reverse, List.all_reverse]
      have turned := Frame.sameForm_turn? here.frame same body_eq
      change Option.Rel SameForm
        ((block.frame.turn? reversed.reverse mark).map (resume block blocks))
        ((place.frame.turn? others.reverse another).map (resume place places))
      generalize block.frame.turn? reversed.reverse mark = turn at turned ⊢
      generalize place.frame.turn? others.reverse another = again at turned ⊢
      cases turned with
      | none => exact .none
      | some turned =>
          cases turned with
          | branch frames => exact .some ⟨rfl, .cons ⟨frames, here.isText_eq⟩ later⟩
          | close same =>
              refine .some ⟨?_, later⟩
              simp [resume, same, here.isText_eq]

theorem SameForm.add (forms : outline.SameForm other) (same : mark.SameForm another) :
    Option.Rel SameForm (outline.add mark) (other.add another) := by
  cases same with
  | text => exact .some (forms.push rfl)
  | output => exact .some (forms.push rfl)
  | assign => exact .some (forms.push rfl)
  | custom => exact .some (forms.push rfl)
  | ifTag => exact .some (forms.enter (.conditional _ _ _ rfl))
  | caseTag => exact .some (forms.enter (.preamble _ _))
  | captureTag => exact .some (forms.enter (.capture _ _))
  | elseIf condition next => exact forms.turn? (.elseIf condition next)
  | elseTag => exact forms.turn? .elseTag
  | whenTag values others => exact forms.turn? (.whenTag values others)
  | closing kind => exact forms.turn? (.closing kind)

theorem SameForm.foldlM_add {marks others : List Mark} (forms : outline.SameForm other)
    (same : List.Forall₂ Mark.SameForm marks others) :
    Option.Rel SameForm (marks.foldlM Outline.add outline) (others.foldlM Outline.add other) := by
  induction same generalizing outline other with
  | nil => exact .some forms
  | @cons mark another marks others here later ih =>
      have added := forms.add here
      rw [List.foldlM_cons, List.foldlM_cons]
      generalize outline.add mark = next at added ⊢
      generalize other.add another = place at added ⊢
      cases added with
      | none => exact .none
      | some forms => exact ih forms

/-- Marks of the same forms are put together or not, all alike. -/
theorem isSome_build_eq {marks others : List Mark}
    (same : List.Forall₂ Mark.SameForm marks others) :
    (build marks).isSome = (build others).isSome := by
  have start : empty.SameForm empty := ⟨rfl, .nil⟩
  have run := start.foldlM_add same
  rw [build, build]
  generalize marks.foldlM Outline.add empty = last at run ⊢
  generalize others.foldlM Outline.add empty = another at run ⊢
  cases run with
  | none => rfl
  | @some outline other forms =>
      obtain ⟨reversed, opened⟩ := outline
      obtain ⟨others, places⟩ := other
      cases forms.blocks <;> rfl

/-- A mark in the place of one of the same form. -/
theorem exists_build_exchange {before behind : List Mark} {mark again : Mark} {nodes : List Node}
    (same : mark.SameForm again) (built : build (before ++ mark :: behind) = some nodes) :
    ∃ others, build (before ++ again :: behind) = some others := by
  have alike : List.Forall₂ Mark.SameForm (before ++ mark :: behind) (before ++ again :: behind) :=
    List.rel_append (List.forall₂_same.2 fun mark _ => mark.sameForm_self)
      (.cons same (List.forall₂_same.2 fun mark _ => mark.sameForm_self))
  rw [← Option.isSome_iff_exists, ← isSome_build_eq alike, built, Option.isSome_some]

end Outline

end Stencil
