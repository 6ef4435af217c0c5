import Stencil.Proofs.Mark
import Stencil.Proofs.Node.Shape

/-!
# Walks

The marks of a node in the order of the source: the opening tag of a block, its
bodies with the branch tags between them, and its own closing tag.
-/

namespace Stencil

namespace Branch

/-- The tag that begins a branch, the first of its conditional or a later one. -/
def mark (opens : Bool) (condition : Option Expr) : Mark :=
  match opens, condition with
  | true, some (.not condition) => .ifTag true condition
  | true, some condition => .ifTag false condition
  | false, some condition => .elseIf condition
  | _, none => .elseTag

@[simp]
theorem mark_later (condition : Expr) : mark false (some condition) = .elseIf condition :=
  rfl

@[simp]
theorem mark_none (opens : Bool) : mark opens none = .elseTag := by
  cases opens <;> rfl

/-- Whether the first of the branches is negated. -/
def negated {ν : Type} (branches : List (Branch ν)) : Bool :=
  (branches.head?.bind Branch.condition).any Expr.isNegation

theorem negated_eq {ν : Type} {negated : Bool} {branches : List (Branch ν)}
    (shape : Conditions negated (branches.map Branch.condition)) :
    Branch.negated branches = negated := by
  obtain ⟨first, head, opens⟩ := shape.opened
  rw [List.head?_map] at head
  obtain ⟨branch, found, conditioned⟩ := Option.map_eq_some_iff.1 head
  rw [Branch.negated, found, Option.bind_some, conditioned, Option.any_some, opens]

end Branch

namespace Node

mutual

/-- The marks of a node. -/
def walk : Node → List Mark
  | .text content => [.text content]
  | .output value => [.output value]
  | .assign name value => [.assign name value]
  | .custom name markup => [.custom name markup]
  | .conditional branches =>
      walkBranches true branches ++ [.closing (.conditional (Branch.negated branches))]
  | .switch subject cases none => .caseTag subject :: walkCases cases ++ [.closing .switch]
  | .switch subject cases (some body) =>
      .caseTag subject :: walkCases cases ++ .elseTag :: walkBody body ++ [.closing .switch]
  | .capture name body => .captureTag name :: walkBody body ++ [.closing .capture]

def walkBody : List Node → List Mark
  | [] => []
  | node :: nodes => walk node ++ walkBody nodes

def walkBranches (opens : Bool) : List (Branch Node) → List Mark
  | [] => []
  | ⟨condition, body⟩ :: branches =>
      Branch.mark opens condition :: walkBody body ++ walkBranches false branches

def walkCases : List (When Node) → List Mark
  | [] => []
  | ⟨values, body⟩ :: cases => .whenTag values :: walkBody body ++ walkCases cases

end

theorem walkBody_append (first second : List Node) :
    walkBody (first ++ second) = walkBody first ++ walkBody second := by
  induction first with
  | nil => rfl
  | cons node nodes ih => rw [List.cons_append, walkBody, walkBody, ih, List.append_assoc]

theorem walkBody_concat (nodes : List Node) (node : Node) :
    walkBody (nodes ++ [node]) = walkBody nodes ++ walk node := by
  rw [walkBody_append, walkBody, walkBody, List.append_nil]

theorem walkBranches_concat (opens : Bool) (branches : List (Branch Node))
    (condition : Option Expr) (body : List Node) :
    walkBranches opens (branches ++ [⟨condition, body⟩]) =
      walkBranches opens branches ++
        Branch.mark (opens && branches.isEmpty) condition :: walkBody body := by
  induction branches generalizing opens with
  | nil => simp [walkBranches]
  | cons branch branches ih => simp [walkBranches, ih]

theorem walkCases_concat (cases : List (When Node)) (values : List Expr) (body : List Node) :
    walkCases (cases ++ [⟨values, body⟩]) =
      walkCases cases ++ .whenTag values :: walkBody body := by
  induction cases with
  | nil => simp [walkCases]
  | cons case cases ih => simp [walkCases, ih]

end Node

/-! ## Nesting -/

namespace BlockKind

/-- Whether a mark begins a branch that only this family has. -/
def isBranch : BlockKind → Mark → Bool
  | .conditional false, .elseIf _ => true
  | .switch, .whenTag _ => true
  | _, _ => false

/-- What stands between the opening and the closing tag of a block, an `else` only as the last. -/
def Turns (kind : BlockKind) (marks : List Mark) : Prop :=
  ∃ branches : List Mark, (∀ mark ∈ branches, kind.isBranch mark) ∧
    (marks = branches ∨ kind ≠ .capture ∧ marks = branches ++ [.elseTag])

end BlockKind

namespace Mark

/-- The family of the block that a mark opens. -/
def opens? : Mark → Option BlockKind
  | .ifTag negated _ => some (.conditional negated)
  | .caseTag _ => some .switch
  | .captureTag _ => some .capture
  | _ => none

/-- Whether a mark neither opens nor turns a block. -/
def isAlone : Mark → Bool
  | .text _ | .output _ | .assign _ _ | .custom _ _ => true
  | _ => false

/--
Sequences of marks in which each block has the branches of its own family and
is closed by its own closing tag.
-/
inductive Nested : List Mark → Prop
  | nil : Nested []
  | append {first second : List Mark} (first_nested : Nested first)
      (second_nested : Nested second) : Nested (first ++ second)
  | alone {mark : Mark} (isAlone : mark.isAlone) : Nested [mark]
  | block {kind : BlockKind} {opener : Mark} {body : List Mark} {turns : List (Mark × List Mark)}
      (opens : opener.opens? = some kind) (bare : opener.isCase → body = [])
      (body_nested : Nested body) (turns_nested : ∀ turn ∈ turns, Nested turn.2)
      (ordered : kind.Turns (turns.map Prod.fst)) :
      Nested (opener :: body ++ turns.flatMap (fun turn => turn.1 :: turn.2) ++ [.closing kind])

end Mark

namespace Node

/-- The branches behind the first one, as marks with what follows them. -/
def branchTurns (branches : List (Branch Node)) : List (Mark × List Mark) :=
  branches.map fun branch => (Branch.mark false branch.condition, walkBody branch.body)

def caseTurns (cases : List (When Node)) : List (Mark × List Mark) :=
  cases.map fun case => (.whenTag case.values, walkBody case.body)

theorem walkBranches_eq_flatMap (branches : List (Branch Node)) :
    walkBranches false branches =
      (branchTurns branches).flatMap fun turn => turn.1 :: turn.2 := by
  induction branches with
  | nil => rfl
  | cons branch branches ih =>
      rw [walkBranches, branchTurns, List.map_cons, List.flatMap_cons, ih]
      rfl

theorem walkCases_eq_flatMap (cases : List (When Node)) :
    walkCases cases = (caseTurns cases).flatMap fun turn => turn.1 :: turn.2 := by
  induction cases with
  | nil => rfl
  | cons case cases ih =>
      rw [walkCases, caseTurns, List.map_cons, List.flatMap_cons, ih]
      rfl

theorem isBranch_caseTurns (cases : List (When Node)) :
    ∀ mark ∈ (caseTurns cases).map Prod.fst, BlockKind.switch.isBranch mark := by
  simp [caseTurns, BlockKind.isBranch]

theorem turns_conditional {negated : Bool} {first : Option Expr} {rest : List (Option Expr)}
    (shape : Conditions negated (first :: rest)) :
    (BlockKind.conditional negated).Turns (rest.map (Branch.mark false)) := by
  have conditioned (next : Expr) (member : some next ∈ rest) :
      (BlockKind.conditional negated).isBranch (Branch.mark false (some next)) := by
    cases negated with
    | false => rfl
    | true => exact absurd (shape.closed rfl _ member) (by simp)
  rcases List.eq_nil_or_concat rest with rfl | ⟨earlier, last, rfl⟩
  · exact ⟨[], by simp, .inl rfl⟩
  · have known (condition : Option Expr) (member : condition ∈ earlier) : condition.isSome := by
      apply shape.conditioned
      rw [List.concat_eq_append, ← List.cons_append, List.dropLast_concat]
      exact List.mem_cons_of_mem _ member
    have branches (mark : Mark) (member : mark ∈ earlier.map (Branch.mark false)) :
        (BlockKind.conditional negated).isBranch mark := by
      obtain ⟨condition, here, rfl⟩ := List.mem_map.1 member
      obtain ⟨next, rfl⟩ := Option.isSome_iff_exists.1 (known condition here)
      exact conditioned next (by simp [here])
    cases last with
    | none => exact ⟨_, branches, .inr ⟨by simp, by simp⟩⟩
    | some next =>
        refine ⟨_, ?_, .inl rfl⟩
        intro mark member
        simp only [List.concat_eq_append, List.map_append, List.map_cons, List.map_nil,
          List.mem_append, List.mem_singleton] at member
        rcases member with earlier | rfl
        · exact branches mark earlier
        · exact conditioned next (by simp)

theorem opens?_mark (first : Expr) :
    (Branch.mark true (some first)).opens? = some (.conditional first.isNegation) := by
  cases first <;> rfl

mutual

theorem nested_walk : ∀ node : Node, Everywhere Shaped node → Mark.Nested (walk node)
  | .text content, _ => .alone rfl
  | .output value, _ => .alone rfl
  | .assign name value, _ => .alone rfl
  | .custom name markup, _ => .alone rfl
  | .conditional [], ⟨⟨_, shape⟩, _⟩ => by
      obtain ⟨_, head, _⟩ := shape.opened
      cases head
  | .conditional (⟨condition, body⟩ :: branches), ⟨⟨negated, shape⟩, here, rest⟩ => by
      obtain ⟨first, head, rfl⟩ := shape.opened
      obtain rfl : condition = some first := by simpa using head
      have turns := turns_conditional shape
      rw [List.map_map] at turns
      have block := @Mark.Nested.block _ _ _ (branchTurns branches) (opens?_mark first)
        (fun opens => by cases first <;> cases opens) (nested_walkBody body here)
        (nested_branchTurns branches rest) (by rwa [branchTurns, List.map_map])
      rwa [← walkBranches_eq_flatMap] at block
  | .switch subject cases none, ⟨_, shaped⟩ => by
      have block := @Mark.Nested.block _ (.caseTag subject) [] _ rfl (fun _ => rfl) .nil
        (nested_caseTurns cases shaped) ⟨_, isBranch_caseTurns cases, .inl rfl⟩
      rwa [← walkCases_eq_flatMap] at block
  | .switch subject cases (some body), ⟨_, shaped, last⟩ => by
      have block := @Mark.Nested.block _ (.caseTag subject) []
        (caseTurns cases ++ [(.elseTag, walkBody body)]) rfl (fun _ => rfl) .nil
        (by
          intro turn member
          rcases List.mem_append.1 member with earlier | here
          · exact nested_caseTurns cases shaped turn earlier
          · rw [List.mem_singleton.1 here]
            exact nested_walkBody body last)
        ⟨_, isBranch_caseTurns cases, .inr ⟨by simp, by simp⟩⟩
      rw [List.flatMap_append, ← walkCases_eq_flatMap] at block
      simpa [walk] using block
  | .capture name body, ⟨_, shaped⟩ => by
      have block := @Mark.Nested.block _ (.captureTag name) _ [] rfl
        (fun opens => by cases opens) (nested_walkBody body shaped) (by simp)
        ⟨[], by simp, .inl rfl⟩
      rwa [List.flatMap_nil, List.append_nil] at block

theorem nested_walkBody : ∀ nodes : List Node, EverywhereBody Shaped nodes →
    Mark.Nested (walkBody nodes)
  | [], _ => .nil
  | node :: nodes, ⟨first, rest⟩ => .append (nested_walk node first) (nested_walkBody nodes rest)

theorem nested_branchTurns : ∀ branches : List (Branch Node), EverywhereBranches Shaped branches →
    ∀ turn ∈ branchTurns branches, Mark.Nested turn.2
  | [], _ => by simp [branchTurns]
  | ⟨condition, body⟩ :: branches, ⟨first, rest⟩ => by
      have later := nested_branchTurns branches rest
      have here := nested_walkBody body first
      simpa [branchTurns, here] using later

theorem nested_caseTurns : ∀ cases : List (When Node), EverywhereCases Shaped cases →
    ∀ turn ∈ caseTurns cases, Mark.Nested turn.2
  | [], _ => by simp [caseTurns]
  | ⟨values, body⟩ :: cases, ⟨first, rest⟩ => by
      have later := nested_caseTurns cases rest
      have here := nested_walkBody body first
      simpa [caseTurns, here] using later

end

end Node

end Stencil
