import Stencil.Proofs.Node.Walk
import Stencil.Proofs.Piece.Printing

/-!
# Printing nodes

A node is written as its marks are, one after the other.  Nodes can be written
when all their parts can, and when no text follows another one.
-/

namespace Stencil

open Grammar (isName)

/--
The conditions of a conditional that can be written: only the first of an
`unless` is negated, and only the last branch may do without.
-/
inductive PrintableConditions : List (Option Expr) → Prop
  | ifTag {first : Expr} {rest : List Expr} {last : List (Option Expr)}
      (first_condition : first.IsCondition .block)
      (rest_conditions : ∀ next ∈ rest, next.IsCondition .block)
      (ends : last = [] ∨ last = [none]) :
      PrintableConditions (some first :: (rest.map some ++ last))
  | unlessTag {first : Expr} {last : List (Option Expr)}
      (first_condition : first.IsCondition .block) (ends : last = [] ∨ last = [none]) :
      PrintableConditions (some (.not first) :: last)

theorem Expr.IsCondition.isNegation_eq {delimiter : Delimiter} {expr : Expr}
    (condition : expr.IsCondition delimiter) : expr.isNegation = false := by
  cases condition with
  | logic => rfl
  | comparison comparison =>
      cases comparison with
      | comparison => rfl
      | primary primary => cases primary <;> rfl

namespace PrintableConditions

theorem conditions {conditions : List (Option Expr)}
    (printable : PrintableConditions conditions) : ∃ negated, Conditions negated conditions := by
  cases printable with
  | @ifTag first rest last first_condition rest_conditions ends =>
      refine ⟨false, ?_, ⟨first, rfl, first_condition.isNegation_eq⟩, by simp⟩
      rcases ends with rfl | rfl
      · intro condition member
        have whole := List.dropLast_subset _ member
        simp only [List.append_nil, List.mem_cons, List.mem_map] at whole
        rcases whole with rfl | ⟨next, -, rfl⟩ <;> rfl
      · intro condition member
        rw [← List.cons_append, List.dropLast_concat] at member
        simp only [List.mem_cons, List.mem_map] at member
        rcases member with rfl | ⟨next, -, rfl⟩ <;> rfl
  | @unlessTag first last first_condition ends =>
      refine ⟨true, ?_, ⟨.not first, rfl, rfl⟩, ?_⟩
      · rcases ends with rfl | rfl <;> simp
      · rcases ends with rfl | rfl <;> simp

theorem marks (config : Config) {first : Option Expr} {rest : List (Option Expr)}
    (printable : PrintableConditions (first :: rest)) :
    (Branch.mark true first).Printable config ∧
      ∀ next ∈ rest, (Branch.mark false next).Printable config := by
  cases printable with
  | @ifTag first rest last first_condition rest_conditions ends =>
      constructor
      · have plain := first_condition.isNegation_eq
        cases first <;> first | exact first_condition | cases plain
      · intro next member
        rcases List.mem_append.1 member with here | atEnd
        · obtain ⟨condition, isCondition, rfl⟩ := List.mem_map.1 here
          exact rest_conditions condition isCondition
        · rcases ends with rfl | rfl
          · cases atEnd
          · rw [List.mem_singleton.1 atEnd]
            trivial
  | @unlessTag first last first_condition ends =>
      refine ⟨first_condition, fun next member => ?_⟩
      rcases ends with rfl | rfl
      · cases member
      · rw [List.mem_singleton.1 member]
        trivial

end PrintableConditions

namespace Node

/-- No text is followed by another one. -/
def Spaced (nodes : List Node) : Prop :=
  nodes.IsChain fun first second => ¬ (first.isText ∧ second.isText)

end Node

/-- A branch of a switch that can be written, apart from the nodes in its body. -/
structure When.Printable (case : When Node) : Prop where
  nonempty : case.values ≠ []
  primaries : ∀ value ∈ case.values, value.IsPrimary .block
  spaced : Node.Spaced case.body

namespace Node

/-- The nodes that can be written, apart from the nodes inside them. -/
def Printable (config : Config) : Node → Prop
  | .text content =>
      content ≠ "" ∧ Piece.Plain content.toList ∧ content.toList.getLast? ≠ some '{'
  | .output value => value.Printable config .output
  | .conditional branches =>
      PrintableConditions (branches.map Branch.condition) ∧
        ∀ branch ∈ branches, Spaced branch.body
  | .switch subject cases otherwise =>
      subject.IsPrimary .block ∧ (∀ case ∈ cases, case.Printable) ∧
        ∀ body, otherwise = some body → Spaced body
  | .capture name body => isName name.toList ∧ Spaced body
  | .assign name value => isName name.toList ∧ value.Printable config .block
  | .custom name markup => CustomTag.Printable config name markup

theorem Printable.shaped {config : Config} {node : Node} (printable : node.Printable config) :
    node.Shaped := by
  cases node with
  | conditional branches => exact printable.1.conditions
  | _ => trivial

end Node

namespace Mark

/-- Marks that can be written one after the other. -/
structure Written (config : Config) (marks : List Mark) : Prop where
  printable : ∀ mark ∈ marks, mark.Printable config
  separated : Separated marks

/-- Marks that do not begin with a text. -/
def BeginsTagged (marks : List Mark) : Prop :=
  ∀ mark, marks.head? = some mark → mark.isText = false

variable {config : Config}

theorem written_singleton {mark : Mark} (printable : mark.Printable config) :
    Written config [mark] :=
  ⟨by simpa using printable, .singleton mark⟩

theorem Written.append {first second : List Mark} (written : Written config first)
    (following : Written config second)
    (seam : ∀ mark next, first.getLast? = some mark → second.head? = some next →
      ¬ (mark.isText ∧ next.isText)) : Written config (first ++ second) where
  printable := by
    intro mark member
    rcases List.mem_append.1 member with here | later
    · exact written.printable mark here
    · exact following.printable mark later
  separated := written.separated.append following.separated
    fun mark last next head => seam mark next last head

theorem Written.append_tagged {first second : List Mark} (written : Written config first)
    (following : Written config second) (tagged : BeginsTagged second) :
    Written config (first ++ second) := by
  refine written.append following fun mark next _ head both => ?_
  rw [tagged next head] at both
  cases both.2

theorem Written.cons_tag {mark : Mark} {marks : List Mark} (printable : mark.Printable config)
    (tag : mark.isText = false) (written : Written config marks) :
    Written config (mark :: marks) := by
  refine (written_singleton printable).append written fun other next last _ both => ?_
  obtain rfl : mark = other := by simpa using last
  rw [tag] at both
  cases both.1

/-- A branch, and what follows it from the next tag on. -/
theorem Written.branch {mark : Mark} {body rest : List Mark} (printable : mark.Printable config)
    (tag : mark.isText = false) (written : Written config body) (following : Written config rest)
    (tagged : BeginsTagged rest) : Written config (mark :: body ++ rest) :=
  .cons_tag printable tag (written.append_tagged following tagged)

end Mark

namespace Node

open Mark (Written BeginsTagged)

theorem isText_mark (opens : Bool) (condition : Option Expr) :
    (Branch.mark opens condition).isText = false := by
  cases condition with
  | none => cases opens <;> rfl
  | some condition =>
      cases opens with
      | false => rfl
      | true => cases condition <;> rfl

theorem beginsTagged_walkBranches (opens : Bool) (branches : List (Branch Node)) :
    BeginsTagged (walkBranches opens branches) := by
  intro mark head
  cases branches with
  | nil => cases head
  | cons branch branches =>
      obtain rfl : Branch.mark opens branch.condition = mark := by simpa [walkBranches] using head
      exact isText_mark opens branch.condition

theorem beginsTagged_walkCases (cases : List (When Node)) : BeginsTagged (walkCases cases) := by
  intro mark head
  cases cases with
  | nil => cases head
  | cons case cases =>
      obtain rfl : .whenTag case.values = mark := by simpa [walkCases] using head
      rfl

theorem beginsTagged_singleton {mark : Mark} (tag : mark.isText = false) : BeginsTagged [mark] := by
  intro other head
  obtain rfl : mark = other := by simpa using head
  exact tag

theorem isText_of_getLast?_walk {node : Node} {mark : Mark}
    (last : (walk node).getLast? = some mark) : mark.isText = node.isText := by
  cases node with
  | conditional branches =>
      rw [walk, List.getLast?_concat] at last
      cases last
      rfl
  | switch subject cases otherwise =>
      cases otherwise <;> rw [walk, List.getLast?_concat] at last <;> cases last <;> rfl
  | capture name body =>
      rw [walk, List.getLast?_concat] at last
      cases last
      rfl
  | _ => cases last; rfl

theorem isText_of_head?_walk {node : Node} {mark : Mark} {rest : List Mark}
    (head : (walk node ++ rest).head? = some mark) : mark.isText = node.isText := by
  cases node with
  | conditional branches =>
      cases branches with
      | nil => cases head; rfl
      | cons branch branches =>
          obtain rfl : Branch.mark true branch.condition = mark := by
            simpa [walk, walkBranches] using head
          exact isText_mark true branch.condition
  | switch subject cases otherwise =>
      cases otherwise <;> cases head <;> rfl
  | _ => cases head; rfl

theorem isText_of_head?_walkBody {nodes : List Node} {mark : Mark}
    (head : (walkBody nodes).head? = some mark) :
    ∃ node, nodes.head? = some node ∧ mark.isText = node.isText := by
  cases nodes with
  | nil => cases head
  | cons node nodes => exact ⟨node, rfl, isText_of_head?_walk head⟩

variable {config : Config}

mutual

theorem written_walk : ∀ node : Node, Everywhere (Printable config) node →
    Written config (walk node)
  | .text _, printable | .output _, printable | .assign _ _, printable | .custom _ _, printable =>
      Mark.written_singleton printable
  | .conditional [], ⟨⟨conditions, _⟩, _⟩ => by cases conditions
  | .conditional (⟨condition, body⟩ :: branches), ⟨⟨conditions, spaced⟩, here, rest⟩ => by
      obtain ⟨bodySpaced, restSpaced⟩ := List.forall_mem_cons.1 spaced
      obtain ⟨first, later⟩ := conditions.marks config
      have tail := written_walkBranches branches rest (by simpa using later) restSpaced
      have whole := Mark.Written.branch first (isText_mark true condition)
        (written_walkBody body here bodySpaced) tail (beginsTagged_walkBranches _ _)
      exact whole.append_tagged (Mark.written_singleton trivial) (beginsTagged_singleton rfl)
  | .switch subject cases none, ⟨⟨isPrimary, whens, _⟩, inner⟩ => by
      have start : Written config (.caseTag subject :: walkCases cases) :=
        .cons_tag isPrimary rfl (written_walkCases cases inner whens)
      exact start.append_tagged (Mark.written_singleton trivial) (beginsTagged_singleton rfl)
  | .switch subject cases (some body), ⟨⟨isPrimary, whens, spaced⟩, inner, last⟩ => by
      have start : Written config (.caseTag subject :: walkCases cases) :=
        .cons_tag isPrimary rfl (written_walkCases cases inner whens)
      have otherwise : Written config (.elseTag :: walkBody body) :=
        .cons_tag trivial rfl (written_walkBody body last (spaced body rfl))
      exact (start.append_tagged otherwise (by intro mark head; cases head; rfl)).append_tagged
        (Mark.written_singleton trivial) (beginsTagged_singleton rfl)
  | .capture name body, ⟨⟨named, spaced⟩, inner⟩ => by
      have start : Written config (.captureTag name :: walkBody body) :=
        .cons_tag named rfl (written_walkBody body inner spaced)
      exact start.append_tagged (Mark.written_singleton trivial) (beginsTagged_singleton rfl)

theorem written_walkBody : ∀ nodes : List Node, EverywhereBody (Printable config) nodes →
    Spaced nodes → Written config (walkBody nodes)
  | [], _, _ => ⟨by simp [walkBody], .nil⟩
  | node :: nodes, ⟨first, rest⟩, spaced => by
      refine (written_walk node first).append (written_walkBody nodes rest spaced.tail) ?_
      intro mark next last head both
      obtain ⟨following, atHead, sameText⟩ := isText_of_head?_walkBody head
      obtain ⟨nodes, rfl⟩ := List.head?_eq_some_iff.1 atHead
      rw [isText_of_getLast?_walk last, sameText] at both
      exact (List.isChain_cons_cons.1 spaced).1 both

theorem written_walkBranches : ∀ branches : List (Branch Node),
    EverywhereBranches (Printable config) branches →
      (∀ branch ∈ branches, (Branch.mark false branch.condition).Printable config) →
        (∀ branch ∈ branches, Spaced branch.body) → Written config (walkBranches false branches)
  | [], _, _, _ => ⟨by simp [walkBranches], .nil⟩
  | ⟨condition, body⟩ :: branches, ⟨here, rest⟩, printable, spaced => by
      obtain ⟨first, later⟩ := List.forall_mem_cons.1 printable
      obtain ⟨bodySpaced, restSpaced⟩ := List.forall_mem_cons.1 spaced
      exact .branch first (isText_mark false condition) (written_walkBody body here bodySpaced)
        (written_walkBranches branches rest later restSpaced) (beginsTagged_walkBranches _ _)

theorem written_walkCases : ∀ cases : List (When Node), EverywhereCases (Printable config) cases →
    (∀ case ∈ cases, case.Printable) → Written config (walkCases cases)
  | [], _, _ => ⟨by simp [walkCases], .nil⟩
  | ⟨values, body⟩ :: cases, ⟨here, rest⟩, printable => by
      obtain ⟨first, later⟩ := List.forall_mem_cons.1 printable
      exact .branch ⟨first.nonempty, first.primaries⟩ rfl (written_walkBody body here first.spaced)
        (written_walkCases cases rest later) (beginsTagged_walkCases _)

end

end Node

end Stencil
