import Stencil.Proofs.Block.Outline
import Stencil.Proofs.Node.Walk

/-!
# Building nodes from their marks

The marks of nodes are put together to these nodes again, when the branches of
conditionals have the shape that they can have in a source.
-/

namespace Stencil

namespace Outline

/-- An outline with a block that is open, and the body of its present branch. -/
def inside (outline : Outline) (frame : Frame) (body : List Node) : Outline :=
  ⟨body.reverse, ⟨frame, outline.reversed⟩ :: outline.blocks⟩

/-- An outline with more nodes. -/
def extend (outline : Outline) (nodes : List Node) : Outline :=
  { outline with reversed := nodes.reverse ++ outline.reversed }

theorem extend_cons (outline : Outline) (node : Node) (nodes : List Node) :
    outline.extend (node :: nodes) = (outline.push node).extend nodes := by
  simp [extend, push]

theorem extend_inside (outline : Outline) (frame : Frame) (body : List Node) :
    (outline.inside frame []).extend body = outline.inside frame body := by
  simp [extend, inside]

theorem add_inside (outline : Outline) {frame : Frame} {body : List Node} {mark : Mark}
    {turn : Turn} (isTurn : mark.isTurn) (turns : frame.turn? body mark = some turn) :
    (outline.inside frame body).add mark =
      some (resume ⟨frame, outline.reversed⟩ outline.blocks turn) := by
  rw [add_of_isTurn isTurn]
  simp [turn?, inside, Outline.body, turns]

theorem add_inside_branch (outline : Outline) {frame next : Frame} {body : List Node}
    {mark : Mark} (isTurn : mark.isTurn) (turns : frame.turn? body mark = some (.branch next)) :
    (outline.inside frame body).add mark = some (outline.inside next []) :=
  outline.add_inside isTurn turns

theorem add_inside_close (outline : Outline) {frame : Frame} {body : List Node} {mark : Mark}
    {node : Node} (isTurn : mark.isTurn) (turns : frame.turn? body mark = some (.close node)) :
    (outline.inside frame body).add mark = some (outline.push node) :=
  outline.add_inside isTurn turns

theorem add_mark_opening (outline : Outline) (condition : Expr) :
    outline.add (Branch.mark true (some condition)) =
      some (outline.inside (.conditional condition.isNegation [] (some condition)) []) := by
  cases condition <;> rfl

/-- Marks that lead from one outline to another. -/
def Leads (first : Outline) (marks : List Mark) (last : Outline) : Prop :=
  marks.foldlM add first = some last

theorem leads_nil (outline : Outline) : outline.Leads [] outline :=
  rfl

theorem Leads.cons {first next last : Outline} {mark : Mark} {marks : List Mark}
    (here : first.add mark = some next) (later : next.Leads marks last) :
    first.Leads (mark :: marks) last := by
  rw [Leads, List.foldlM_cons, here]
  exact later

theorem Leads.append {first next last : Outline} {marks others : List Mark}
    (here : first.Leads marks next) (later : next.Leads others last) :
    first.Leads (marks ++ others) last := by
  rw [Leads, List.foldlM_append, here]
  exact later

theorem Leads.concat {first next last : Outline} {marks : List Mark} {mark : Mark}
    (here : first.Leads marks next) (later : next.add mark = some last) :
    first.Leads (marks ++ [mark]) last :=
  here.append (.cons later (leads_nil last))

end Outline

namespace Node

open Outline

/-- The branches that may follow one with a condition, or without. -/
structure MayFollow (negated : Bool) (condition : Option Expr)
    (branches : List (Branch Node)) : Prop where
  conditioned : ∀ other ∈ (condition :: branches.map Branch.condition).dropLast, other.isSome
  closed : negated → ∀ other ∈ branches.map Branch.condition, other = none

mutual

theorem leads_walk : ∀ node : Node, Everywhere Shaped node → ∀ outline : Outline,
    outline.Leads (walk node) (outline.push node)
  | .text content, _, outline => rfl
  | .output value, _, outline => rfl
  | .assign name value, _, outline => rfl
  | .custom name markup, _, outline => rfl
  | .conditional [], ⟨⟨_, shape⟩, _⟩, outline => by
      obtain ⟨_, head, _⟩ := shape.opened
      cases head
  | .conditional (⟨condition, body⟩ :: branches), ⟨⟨negated, shape⟩, here, rest⟩, outline => by
      obtain ⟨first, head, rfl⟩ := shape.opened
      obtain rfl : condition = some first := by simpa using head
      have follow : MayFollow first.isNegation (some first) branches :=
        ⟨shape.conditioned, shape.closed⟩
      have later := leads_walkBranches branches rest outline first.isNegation [] (some first)
        body follow
      rw [walk, walkBranches, Branch.negated_eq shape, List.cons_append, List.cons_append,
        List.append_assoc]
      exact .cons (outline.add_mark_opening first) ((leads_inside body here outline _).append later)
  | .switch subject cases none, ⟨_, shaped⟩, outline => by
      obtain ⟨last, lastBody, walked, turns⟩ := leads_walkCases cases shaped outline subject []
        (.preamble subject) [] rfl
      have closed : (outline.inside last lastBody).add (.closing .switch) =
          some (outline.push (.switch subject cases none)) :=
        outline.add_inside_close rfl (by rw [turns]; rfl)
      exact .cons rfl (walked.concat closed)
  | .switch subject cases (some body), ⟨_, shaped, bodyShaped⟩, outline => by
      obtain ⟨last, lastBody, walked, turns⟩ := leads_walkCases cases shaped outline subject []
        (.preamble subject) [] rfl
      have branched : (outline.inside last lastBody).add .elseTag =
          some (outline.inside (.otherwise subject cases) []) :=
        outline.add_inside_branch rfl (by rw [turns]; rfl)
      have closed : (outline.inside (.otherwise subject cases) body).add (.closing .switch) =
          some (outline.push (.switch subject cases (some body))) :=
        outline.add_inside_close rfl rfl
      rw [walk, List.append_assoc, List.cons_append]
      exact .cons rfl (walked.append (.cons branched
        ((leads_inside body bodyShaped outline _).concat closed)))
  | .capture name body, ⟨_, shaped⟩, outline => by
      have closed : (outline.inside (.capture name) body).add (.closing .capture) =
          some (outline.push (.capture name body)) :=
        outline.add_inside_close rfl rfl
      exact .cons rfl ((leads_inside body shaped outline _).concat closed)

theorem leads_walkBody : ∀ nodes : List Node, EverywhereBody Shaped nodes →
    ∀ outline : Outline, outline.Leads (walkBody nodes) (outline.extend nodes)
  | [], _, outline => rfl
  | node :: nodes, ⟨first, rest⟩, outline => by
      rw [walkBody, extend_cons]
      exact (leads_walk node first outline).append (leads_walkBody nodes rest (outline.push node))

theorem leads_inside : ∀ body : List Node, EverywhereBody Shaped body →
    ∀ (outline : Outline) (frame : Frame),
      (outline.inside frame []).Leads (walkBody body) (outline.inside frame body)
  | body, shaped, outline, frame => by
      have filled := leads_walkBody body shaped (outline.inside frame [])
      rwa [extend_inside] at filled

theorem leads_walkBranches : ∀ branches : List (Branch Node), EverywhereBranches Shaped branches →
    ∀ (outline : Outline) (negated : Bool) (before : List (Branch Node)) (condition : Option Expr)
      (body : List Node), MayFollow negated condition branches →
      (outline.inside (.conditional negated before condition) body).Leads
        (walkBranches false branches ++ [.closing (.conditional negated)])
        (outline.push (.conditional (before ++ ⟨condition, body⟩ :: branches)))
  | [], _, outline, negated, before, condition, body, _ =>
      .cons (outline.add_inside_close rfl (by simp [Frame.turn?, Frame.turnConditional?,
        Frame.close?])) (leads_nil _)
  | ⟨next, nextBody⟩ :: branches, ⟨here, rest⟩, outline, negated, before, condition, body,
      ⟨conditioned, closed⟩ => by
      have given : condition.isSome := conditioned condition (by simp)
      have turned : (Frame.conditional negated before condition).turn? body
          (Branch.mark false next) =
            some (.branch (.conditional negated (before ++ [⟨condition, body⟩]) next)) := by
        cases next with
        | none => simp [Frame.turn?, Frame.turnConditional?, given]
        | some expr =>
            have unnegated : negated = false := by
              cases negated with
              | false => rfl
              | true => cases closed rfl (some expr) (by simp)
            simp [Frame.turn?, Frame.turnConditional?, given, unnegated]
      have isTurn : (Branch.mark false next).isTurn := by cases next <;> rfl
      have later := leads_walkBranches branches rest outline negated (before ++ [⟨condition, body⟩])
        next nextBody
        ⟨fun other member => conditioned other (List.mem_cons_of_mem _ member),
          fun negates other member => closed negates other (List.mem_cons_of_mem _ member)⟩
      rw [List.append_assoc] at later
      rw [walkBranches, List.append_assoc, List.cons_append]
      exact .cons (outline.add_inside_branch isTurn turned)
        ((leads_inside nextBody here outline _).append later)

theorem leads_walkCases : ∀ cases : List (When Node), EverywhereCases Shaped cases →
    ∀ (outline : Outline) (subject : Expr) (completed : List (When Node)) (frame : Frame)
      (body : List Node), frame.turn? body = Frame.turnCase? subject completed →
      ∃ last lastBody,
        (outline.inside frame body).Leads (walkCases cases) (outline.inside last lastBody) ∧
          last.turn? lastBody = Frame.turnCase? subject (completed ++ cases)
  | [], _, outline, subject, completed, frame, body, turns =>
      ⟨frame, body, rfl, by rw [turns, List.append_nil]⟩
  | ⟨values, whenBody⟩ :: cases, ⟨here, rest⟩, outline, subject, completed, frame, body,
      turns => by
      have branched : (outline.inside frame body).add (.whenTag values) =
          some (outline.inside (.case subject completed values) []) :=
        outline.add_inside_branch rfl (by rw [turns]; rfl)
      obtain ⟨last, lastBody, walked, lastTurns⟩ := leads_walkCases cases rest outline subject
        (completed ++ [⟨values, whenBody⟩]) (.case subject completed values) whenBody rfl
      rw [List.append_assoc] at lastTurns
      refine ⟨last, lastBody, ?_, lastTurns⟩
      exact .cons branched ((leads_inside whenBody here outline _).append walked)

end

/-- The marks of nodes make up these nodes. -/
theorem build_walkBody {nodes : List Node} (shaped : EverywhereBody Shaped nodes) :
    Outline.build (walkBody nodes) = some nodes := by
  have built := leads_walkBody nodes shaped .empty
  rw [Leads] at built
  rw [Outline.build, built]
  simp [finish?, extend, empty, Outline.body]

end Node

end Stencil
