import Stencil.Proofs.Block.Walk
import Stencil.Proofs.Node.Event
import Stencil.Proofs.Segment.Decomposition
import Stencil.Proofs.Syntax.Shape

/-!
# Well-formed nodes

What nodes can come of a source.  Each mark is well formed on its own, and the
marks of a node are those of its source; so the node is well formed with all
nodes inside it, and rendering asks for nothing that is not registered.
-/

namespace Stencil

/-! ## Marks -/

/-- What a segment can say. -/
def Mark.WellFormed (config : Config) : Mark → Prop
  | .text content => content ≠ ""
  | .output value | .assign _ value => value.WellFormed config
  | .custom name _ => (config.tag? name).isSome
  | .ifTag _ condition | .elseIf condition => condition.IsFormula
  | .caseTag subject => subject.IsOperand
  | .whenTag values => values ≠ [] ∧ ∀ value ∈ values, value.IsOperand
  | .captureTag _ | .elseTag | .closing _ => True

theorem Expr.IsFormula.isNegation_eq {expr : Expr} (formula : expr.IsFormula) :
    expr.isNegation = false := by
  cases formula with
  | logic => rfl
  | relation relation =>
      cases relation with
      | comparison => rfl
      | operand operand => cases operand <;> rfl

theorem Mark.WellFormed.positive {config : Config} {mark : Mark}
    (wellFormed : mark.WellFormed config) : mark.Positive := by
  cases mark with
  | ifTag negated condition => exact Expr.IsFormula.isNegation_eq wellFormed
  | _ => trivial

variable {config : Config}

theorem Tag.wellFormed_of_mark? {tag : Tag} {mark : Mark}
    (reads : tag.mark? config = some mark) : mark.WellFormed config := by
  cases bears_of_mark? reads with
  | ifTag key read | elseIf key read => exact TagInside.isFormula_of_condition read
  | caseTag key read => exact TagInside.isOperand_of_subject read
  | assign key read => exact TagInside.wellFormed_of_assignment read
  | whenTag key read => exact TagInside.spec_of_values read
  | captureTag key read | elseTag key alone | closing key alone => trivial
  | custom nonempty registered accepted => exact Option.isSome_of_eq_some registered

namespace Segment

/-- The texts of a source that can be scanned are not empty. -/
theorem text_ne_nil_of_scan {source content : List Char} {segments : List Segment}
    (scanned : scan source = .ok segments) (member : .text content ∈ segments) :
    content ≠ [] := by
  obtain ⟨pieces, decomposes⟩ := exists_decomposes_of_scan scanned
  have shows : (none, content) ∈ pieces.filterMap Piece.shown? := by
    rw [← decomposes.shown_eq]
    exact List.mem_map.2 ⟨_, member, rfl⟩
  obtain ⟨piece, inSource, shown⟩ := List.mem_filterMap.1 shows
  have wellFormed := decomposes.wellFormed piece inSource
  cases piece with
  | text run =>
      cases shown
      exact wellFormed.1
  | span delimiter inside => cases shown
  | quotation kind inside body closing =>
      cases kind with
      | comment => cases shown
      | raw =>
          simp only [Piece.shown?] at shown
          split at shown
          · cases shown
          · next solid =>
              cases shown
              exact solid

theorem wellFormed_of_mark? {segment : Segment} {mark : Mark}
    (solid : ∀ content, segment = .text content → content ≠ [])
    (reads : segment.mark? config = some mark) : mark.WellFormed config := by
  cases segment with
  | text content =>
      cases reads
      exact fun blank => solid content rfl (String.ofList_eq_empty_iff.1 blank)
  | output inner position =>
      obtain ⟨value, read, rfl⟩ := Except.toOption_map_eq_some_iff.1 reads
      exact TagInside.wellFormed_of_output read
  | block inner position => exact Tag.wellFormed_of_mark? reads

theorem wellFormed_of_scan {source : List Char} {segments : List Segment} {marks : List Mark}
    (scanned : scan source = .ok segments) (reads : segments.mapM (mark? config) = some marks) :
    ∀ mark ∈ marks, mark.WellFormed config := by
  intro mark member
  obtain ⟨segment, inSource, here⟩ := exists_of_mem_mapM_mark? reads member
  refine wellFormed_of_mark? ?_ here
  rintro content rfl
  exact text_ne_nil_of_scan scanned inSource

end Segment

theorem Mark.mem_of_mem_withoutPreambles {mark : Mark} {marks : List Mark} {inPreamble : Bool}
    (member : mark ∈ withoutPreambles inPreamble marks) : mark ∈ marks := by
  induction marks generalizing inPreamble with
  | nil => exact member
  | cons first marks ih =>
      rw [withoutPreambles] at member
      split at member
      · exact List.mem_cons_of_mem _ (ih member)
      · rcases List.mem_cons.1 member with rfl | later
        · exact List.mem_cons_self
        · exact List.mem_cons_of_mem _ (ih later)

/-! ## Nodes -/

/--
The conditions of the branches of a conditional.  It begins with one; only the
last branch may do without, and only the first condition may be negated, as a
whole and with nothing but an `else` behind it.
-/
structure BranchConditions (conditions : List (Option Expr)) : Prop where
  begins : ∃ first, conditions.head? = some (some first) ∧ (first.IsFormula ∨
    ∃ inner, first = .not inner ∧ inner.IsFormula ∧
      (conditions.tail = [] ∨ conditions.tail = [none]))
  conditioned : ∀ condition ∈ conditions.dropLast, condition.isSome
  later : ∀ condition, some condition ∈ conditions.tail → condition.IsFormula

/-- The nodes that can come of a source, apart from the nodes inside them. -/
def Node.WellFormed (config : Config) : Node → Prop
  | .text content => content ≠ ""
  | .output value | .assign _ value => value.WellFormed config
  | .conditional branches => BranchConditions (branches.map Branch.condition)
  | .switch subject cases _ => subject.IsOperand ∧
      ∀ case ∈ cases, case.values ≠ [] ∧ ∀ value ∈ case.values, value.IsOperand
  | .capture _ _ => True
  | .custom name _ => (config.tag? name).isSome

theorem Conditions.tail_of_negated {first : Option Expr} {rest : List (Option Expr)}
    (shape : Conditions true (first :: rest)) : rest = [] ∨ rest = [none] := by
  have closed := shape.closed rfl
  have conditioned := shape.conditioned
  cases rest with
  | nil => exact .inl rfl
  | cons next rest =>
      obtain rfl := closed next List.mem_cons_self
      cases rest with
      | nil => exact .inr rfl
      | cons last rest => exact absurd (conditioned none (by simp)) (by simp)

/-- The conditions of a shape, all of which can be written. -/
theorem BranchConditions.of_marks {negated : Bool} {first : Option Expr}
    {rest : List (Option Expr)} (shape : Conditions negated (first :: rest))
    (opens : (Branch.mark true first).WellFormed config)
    (later : ∀ next ∈ rest, (Branch.mark false next).WellFormed config) :
    BranchConditions (first :: rest) where
  begins := by
    obtain ⟨condition, head, negates⟩ := shape.opened
    obtain rfl : first = some condition := by simpa using head
    refine ⟨condition, rfl, ?_⟩
    -- The mark of a negated condition holds what is negated, and is that of an `unless`.
    cases condition with
    | not inner =>
        cases negates
        exact .inr ⟨inner, rfl, opens, shape.tail_of_negated⟩
    | _ => exact .inl opens
  conditioned := shape.conditioned
  later := fun condition member => later (some condition) member

namespace Node

theorem mark_mem_walkBranches {branches : List (Branch Node)} {condition : Option Expr}
    (member : condition ∈ branches.map Branch.condition) :
    Branch.mark false condition ∈ walkBranches false branches := by
  obtain ⟨branch, here, rfl⟩ := List.mem_map.1 member
  rw [walkBranches_eq_flatMap]
  exact List.mem_flatMap.2 ⟨_, List.mem_map_of_mem here, List.mem_cons_self⟩

theorem whenTag_mem_walkCases {cases : List (When Node)} {case : When Node}
    (member : case ∈ cases) : .whenTag case.values ∈ walkCases cases := by
  rw [walkCases_eq_flatMap]
  exact List.mem_flatMap.2 ⟨_, List.mem_map_of_mem member, List.mem_cons_self⟩

mutual

/-- A node of well-formed marks is well formed, with all nodes inside it. -/
theorem wellFormed_of_walk : ∀ node : Node, Everywhere Shaped node →
    (∀ mark ∈ walk node, mark.WellFormed config) → Everywhere (WellFormed config) node
  | .text _, _, marks | .output _, _, marks | .assign _ _, _, marks | .custom _ _, _, marks =>
      marks _ List.mem_cons_self
  | .conditional [], ⟨⟨_, shape⟩, _⟩, _ => by
      obtain ⟨_, head, _⟩ := shape.opened
      cases head
  | .conditional (⟨condition, body⟩ :: branches), ⟨⟨_, shape⟩, shaped⟩, marks => by
      have inside := fun mark member => marks mark (List.mem_append_left _ member)
      refine ⟨.of_marks shape (inside _ List.mem_cons_self) fun next member => ?_,
        wellFormed_of_walkBranches true _ shaped inside⟩
      exact inside _ (List.mem_append_right _ (mark_mem_walkBranches member))
  | .switch subject cases none, ⟨_, shaped⟩, marks => by
      have inside := fun mark member => marks mark (List.mem_append_left _ member)
      refine ⟨⟨inside _ List.mem_cons_self, fun case member => ?_⟩,
        wellFormed_of_walkCases cases shaped fun mark member =>
          inside mark (List.mem_cons_of_mem _ member)⟩
      exact inside _ (List.mem_cons_of_mem _ (whenTag_mem_walkCases member))
  | .switch subject cases (some body), ⟨_, shaped, last⟩, marks => by
      have inside := fun mark member => marks mark (List.mem_append_left _ member)
      have before := fun mark member => inside mark (List.mem_append_left _ member)
      refine ⟨⟨before _ List.mem_cons_self, fun case member => ?_⟩,
        wellFormed_of_walkCases cases shaped fun mark member =>
          before mark (List.mem_cons_of_mem _ member),
        wellFormed_of_walkBody body last fun mark member =>
          inside mark (List.mem_append_right _ (List.mem_cons_of_mem _ member))⟩
      exact before _ (List.mem_cons_of_mem _ (whenTag_mem_walkCases member))
  | .capture name body, ⟨_, shaped⟩, marks =>
      ⟨trivial, wellFormed_of_walkBody body shaped fun mark member =>
        marks mark (List.mem_append_left _ (List.mem_cons_of_mem _ member))⟩

theorem wellFormed_of_walkBody : ∀ nodes : List Node, EverywhereBody Shaped nodes →
    (∀ mark ∈ walkBody nodes, mark.WellFormed config) → EverywhereBody (WellFormed config) nodes
  | [], _, _ => trivial
  | node :: nodes, ⟨first, rest⟩, marks =>
      ⟨wellFormed_of_walk node first fun mark member =>
          marks mark (List.mem_append_left _ member),
        wellFormed_of_walkBody nodes rest fun mark member =>
          marks mark (List.mem_append_right _ member)⟩

theorem wellFormed_of_walkBranches (opens : Bool) : ∀ branches : List (Branch Node),
    EverywhereBranches Shaped branches →
      (∀ mark ∈ walkBranches opens branches, mark.WellFormed config) →
        EverywhereBranches (WellFormed config) branches
  | [], _, _ => trivial
  | ⟨_, body⟩ :: branches, ⟨first, rest⟩, marks =>
      ⟨wellFormed_of_walkBody body first fun mark member =>
          marks mark (List.mem_append_left _ (List.mem_cons_of_mem _ member)),
        wellFormed_of_walkBranches false branches rest fun mark member =>
          marks mark (List.mem_append_right _ member)⟩

theorem wellFormed_of_walkCases : ∀ cases : List (When Node), EverywhereCases Shaped cases →
    (∀ mark ∈ walkCases cases, mark.WellFormed config) →
      EverywhereCases (WellFormed config) cases
  | [], _, _ => trivial
  | ⟨_, body⟩ :: cases, ⟨first, rest⟩, marks =>
      ⟨wellFormed_of_walkBody body first fun mark member =>
          marks mark (List.mem_append_left _ (List.mem_cons_of_mem _ member)),
        wellFormed_of_walkCases cases rest fun mark member =>
          marks mark (List.mem_append_right _ member)⟩

end

end Node

/-! ## Rendering well-formed nodes -/

theorem FilterCall.isRegistered_of_mem_events {scope : Scope} {value : Value}
    {calls : List FilterCall} (wellFormed : ∀ call ∈ calls, call.WellFormed config) :
    ∀ event ∈ events config scope value calls, event.isRegistered config := by
  induction calls generalizing value with
  | nil => simp [events]
  | cons call calls ih =>
      obtain ⟨here, later⟩ := List.forall_mem_cons.1 wellFormed
      rw [events, List.forall_mem_cons]
      refine ⟨here.registered, ?_⟩
      split
      · exact ih later
      · simp

theorem Output.isRegistered_of_mem_events {scope : Scope} {output : Output}
    (wellFormed : output.WellFormed config) :
    ∀ event ∈ output.events config scope, event.isRegistered config := by
  unfold events
  split
  · simp
  · exact FilterCall.isRegistered_of_mem_events wellFormed.filters

namespace Node

mutual

theorem isRegistered_of_mem_events : ∀ (node : Node) (rendering : Rendering),
    Everywhere (WellFormed config) node →
      ∀ event ∈ events config node rendering, event.isRegistered config
  | .text _, _, _ => by simp [events]
  | .output _, _, wellFormed | .assign _ _, _, wellFormed =>
      Output.isRegistered_of_mem_events wellFormed
  | .conditional branches, rendering, ⟨_, inner⟩ =>
      isRegistered_of_mem_eventsOfBranches branches rendering inner
  | .switch subject cases none, rendering, ⟨_, inner⟩ =>
      isRegistered_of_mem_eventsOfCases (subject.eval rendering.scope) cases rendering inner
        (by simp)
  | .switch subject cases (some body), rendering, ⟨_, inner, last⟩ =>
      isRegistered_of_mem_eventsOfCases (subject.eval rendering.scope) cases rendering inner
        (isRegistered_of_mem_eventsOfBody body rendering last)
  | .capture name body, rendering, ⟨_, inner⟩ =>
      isRegistered_of_mem_eventsOfBody body { rendering with output := "" } inner
  | .custom _ _, _, registered => List.forall_mem_singleton.2 registered

theorem isRegistered_of_mem_eventsOfBody : ∀ (nodes : List Node) (rendering : Rendering),
    EverywhereBody (WellFormed config) nodes →
      ∀ event ∈ eventsOfBody config nodes rendering, event.isRegistered config
  | [], _, _ => by simp [eventsOfBody]
  | node :: nodes, rendering, ⟨first, rest⟩ => by
      rw [eventsOfBody, List.forall_mem_append]
      refine ⟨isRegistered_of_mem_events node rendering first, ?_⟩
      split
      · exact isRegistered_of_mem_eventsOfBody nodes _ rest
      · simp

theorem isRegistered_of_mem_eventsOfBranches :
    ∀ (branches : List (Branch Node)) (rendering : Rendering),
      EverywhereBranches (WellFormed config) branches →
        ∀ event ∈ eventsOfBranches config branches rendering, event.isRegistered config
  | [], _, _ => by simp [eventsOfBranches]
  | ⟨condition, body⟩ :: branches, rendering, ⟨first, rest⟩ => by
      rw [eventsOfBranches]
      split
      · exact isRegistered_of_mem_eventsOfBody body rendering first
      · exact isRegistered_of_mem_eventsOfBranches branches rendering rest

theorem isRegistered_of_mem_eventsOfCases (subject : Value) :
    ∀ (cases : List (When Node)) (rendering : Rendering) {last : List Event},
      EverywhereCases (WellFormed config) cases →
        (∀ event ∈ last, event.isRegistered config) →
          ∀ event ∈ (eventsOfCases config subject cases rendering).getD last,
            event.isRegistered config
  | [], _, _, _, otherwise => otherwise
  | ⟨values, body⟩ :: cases, rendering, _, ⟨first, rest⟩, otherwise => by
      rw [eventsOfCases]
      split
      · exact isRegistered_of_mem_eventsOfBody body rendering first
      · exact isRegistered_of_mem_eventsOfCases subject cases rendering rest otherwise

end

end Node

end Stencil
