import Stencil.Proofs.Grammar.Exchange
import Stencil.Proofs.Syntax.Resemblance

/-!
# Operands

What the operands of some syntax are, from left to right, and what becomes of
the syntax when one of the literals among them is read from another numeral:
the rest of it stays, and it fails if the literal does.
-/

namespace Stencil

open Grammar (Exchange Tree)

/-- The literals and paths of an expression, from left to right. -/
def Expr.operands : Expr → List Expr
  | .literal value => [.literal value]
  | .path names => [.path names]
  | .comparison _ left right | .logic _ left right => left.operands ++ right.operands
  | .not condition => condition.operands

def FilterCall.operands (call : FilterCall) : List Expr :=
  call.argument.elim [] Expr.operands

def Output.operands (output : Output) : List Expr :=
  output.expr.operands ++ output.filters.flatMap FilterCall.operands

/--
Some syntax with a literal operand, and what comes of it with another result of
reading the literal: the same around another value, or the same failure.
-/
def Varies {α : Type} (operands : α → List Expr) (again : Checked Value) (old : α)
    (new : Checked α) : Prop :=
  ∃ (build : Value → α) (value : Value),
    (∃ first last, ∀ value, operands (build value) = first ++ .literal value :: last) ∧
      old = build value ∧ new = again.map build

theorem Varies.map {α β : Type} {operands : α → List Expr} {parts : β → List Expr}
    {again : Checked Value} {old : α} {new : Checked α} {whole : Checked β}
    (varies : Varies operands again old new) (wrap : α → β) (before behind : List Expr)
    (around : ∀ inner, parts (wrap inner) = before ++ (operands inner ++ behind))
    (same : whole = new.map wrap) : Varies parts again (wrap old) whole := by
  obtain ⟨build, value, ⟨first, last, placed⟩, rfl, rfl⟩ := varies
  refine ⟨fun value => wrap (build value), value,
    ⟨before ++ first, last ++ behind, fun value => ?_⟩, rfl, ?_⟩
  · simp [around, placed]
  · rw [same]
    cases again <;> rfl

section

variable {exchange : Exchange} {stop other : Nat} {first second : Tree} {trees others : List Tree}

/-- A tree with parts is swapped by swapping one of its parts. -/
theorem Grammar.Tree.Swapped.exists_parts {rule : Grammar.Rule} {text start : List Char}
    (swapped : Tree.Swapped exchange.oldLeaf exchange.newLeaf ⟨rule, text, start, trees⟩ second)
    (noNumeral : rule ≠ .float ∧ rule ≠ .int) :
    ∃ place others, second = ⟨rule, text, place, others⟩ ∧ rule.hasParts ∧
      Tree.SwappedIn exchange.oldLeaf exchange.newLeaf trees others := by
  generalize same : Tree.mk rule text start trees = tree at swapped
  cases swapped with
  | leaf =>
      cases same
      rcases exchange.oldNumeral.rule_eq with isFloat | isInt
      · exact absurd isFloat noNumeral.1
      · exact absurd isInt noNumeral.2
  | parts composed inner =>
      cases same
      exact ⟨_, _, rfl, composed, inner⟩

/-- Nothing is swapped in a tree without parts that is no numeral. -/
theorem Grammar.Tree.not_swapped {rule : Grammar.Rule} {text start : List Char}
    (noNumeral : rule ≠ .float ∧ rule ≠ .int) (simple : rule.hasParts = false) :
    ¬ Tree.Swapped exchange.oldLeaf exchange.newLeaf ⟨rule, text, start, trees⟩ second := by
  intro swapped
  obtain ⟨_, _, -, composed, -⟩ := swapped.exists_parts noNumeral
  rw [simple] at composed
  cases composed

/-- A tree without parts can only be the leaf itself. -/
theorem Grammar.Tree.Swapped.eq_leaf
    (swapped : Tree.Swapped exchange.oldLeaf exchange.newLeaf first second)
    (simple : first.rule.hasParts = false) :
    first = exchange.oldLeaf ∧ second = exchange.newLeaf := by
  cases swapped with
  | leaf => exact ⟨rfl, rfl⟩
  | parts composed =>
      rw [Tree.rule, composed] at simple
      cases simple

/-- Trees with parts keep their rule. -/
theorem Grammar.Tree.Swapped.rule_eq
    (swapped : Tree.Swapped exchange.oldLeaf exchange.newLeaf first second)
    (composed : first.rule.hasParts) : second.rule = first.rule := by
  cases swapped with
  | parts => rfl
  | leaf =>
      rcases exchange.oldNumeral.rule_eq with same | same <;>
      · rw [Exchange.oldLeaf, Tree.rule, same] at composed
        cases composed

namespace Expr

variable {expr : Expr}

/-- Literals have no parts. -/
theorem hasParts_of_ofLiteral {value : Value} (read : ofLiteral stop first = .ok value) :
    first.rule.hasParts = false := by
  cases ofLiteral_eq_ok_iff.1 read <;> rfl

theorem ofPrimary_of_swapped (other : Nat)
    (swapped : Tree.Swapped exchange.oldLeaf exchange.newLeaf first second)
    (read : ofPrimary stop first = .ok expr) :
    Varies operands (ofLiteral other exchange.newLeaf) expr (ofPrimary other second) := by
  cases ofPrimary_eq_ok_iff.1 read with
  | @literal _ _ _ _ _ value known =>
      obtain ⟨_, _, rfl, -, ⟨literal, _⟩ | ⟨_, ⟨⟩⟩⟩ := swapped.exists_parts (by decide)
      obtain ⟨_, _, rfl, -, ⟨inner, _⟩ | ⟨_, ⟨⟩⟩⟩ := literal.exists_parts (by decide)
      obtain ⟨rfl, rfl⟩ := inner.eq_leaf (hasParts_of_ofLiteral known)
      exact ⟨.literal, value, ⟨[], [], fun _ => rfl⟩, rfl, rfl⟩
  | path =>
      obtain ⟨_, _, rfl, -, ⟨path, _⟩ | ⟨_, ⟨⟩⟩⟩ := swapped.exists_parts (by decide)
      exact absurd path (Tree.not_swapped (by decide) rfl)

/-- No operator is read from what has been swapped. -/
theorem operator?_of_swapped
    (swapped : Tree.Swapped exchange.oldLeaf exchange.newLeaf first second) :
    operator? first = none ∧ connective? first = none := by
  cases swapped with
  | leaf => rcases exchange.oldNumeral.rule_eq with same | same <;>
      simp [Exchange.oldLeaf, same, operator?, connective?]
  | @parts rule _ _ _ _ _ composed => cases rule <;> first | exact ⟨rfl, rfl⟩ | cases composed

theorem ofComparison_of_swapped (other : Nat)
    (swapped : Tree.Swapped exchange.oldLeaf exchange.newLeaf first second)
    (read : ofComparison stop first = .ok expr) :
    Varies operands (ofLiteral other exchange.newLeaf) expr (ofComparison other second) := by
  cases ofComparison_eq_ok_iff.1 read with
  | operand here =>
      obtain ⟨_, _, rfl, -, ⟨operand, _⟩ | ⟨_, ⟨⟩⟩⟩ := swapped.exists_parts (by decide)
      exact ofPrimary_of_swapped other operand here
  | @comparison _ _ _ _ _ left right operator leftHere known rightHere =>
      obtain ⟨_, _, rfl, -, inner⟩ := swapped.exists_parts (by decide)
      obtain ⟨operand, _⟩ | ⟨sameLeft, ⟨middle, _⟩ | ⟨sameMiddle, ⟨operand, _⟩ | ⟨_, ⟨⟩⟩⟩⟩ := inner
      · have varies := ofPrimary_of_swapped other operand leftHere
        refine varies.map (fun left => comparison operator left right) []
          right.operands (fun _ => rfl) ?_
        rw [ofComparison, ofPrimary_of_same (Tree.same_self _) rightHere]
        simp only [known]
        cases ofPrimary other _ <;> rfl
      · rw [(operator?_of_swapped middle).1] at known
        cases known
      · have varies := ofPrimary_of_swapped other operand rightHere
        rw [operator?_of_same sameMiddle] at known
        refine varies.map (fun right => comparison operator left right)
          left.operands [] (fun _ => by simp [operands]) ?_
        rw [ofComparison, ofPrimary_of_same sameLeft leftHere]
        simp only [known]
        cases ofPrimary other _ <;> rfl

theorem ofComparisons_of_swapped (other : Nat)
    (swapped : Tree.SwappedIn exchange.oldLeaf exchange.newLeaf trees others)
    (read : ofComparisons stop trees = .ok expr) :
    Varies operands (ofLiteral other exchange.newLeaf) expr (ofComparisons other others) := by
  rw [ofComparisons_eq_ok_iff] at read
  induction read generalizing others with
  | last here =>
      obtain ⟨operand, _⟩ | ⟨_, ⟨⟩⟩ := swapped
      exact ofComparison_of_swapped other operand here
  | @logic _ _ trees left right connective here known later ih =>
      obtain ⟨operand, _⟩ | ⟨sameLeft, ⟨between, _⟩ | ⟨sameMiddle, inner⟩⟩ := swapped
      · have varies := ofComparison_of_swapped other operand here
        refine varies.map (fun left => logic connective left right) []
          right.operands (fun _ => rfl) ?_
        rw [ofComparisons,
          ofComparisons_of_same (Tree.same_self_all trees) (ofComparisons_eq_ok_iff.2 later)]
        simp only [known]
        cases ofComparison other _ <;> rfl
      · rw [(operator?_of_swapped between).2] at known
        cases known
      · have varies := ih inner
        rw [connective?_of_same sameMiddle] at known
        refine varies.map (fun right => logic connective left right)
          left.operands [] (fun _ => by simp [operands]) ?_
        rw [ofComparisons, ofComparison_of_same sameLeft here]
        simp only [known]
        cases ofComparisons other _ <;> rfl

theorem ofCondition_of_swapped (other : Nat)
    (swapped : Tree.Swapped exchange.oldLeaf exchange.newLeaf first second)
    (read : ofCondition stop first = .ok expr) :
    Varies operands (ofLiteral other exchange.newLeaf) expr (ofCondition other second) := by
  obtain ⟨_, _, comparisons, rfl, behind⟩ := ofCondition_eq_ok_iff.1 read
  obtain ⟨_, _, rfl, -, inner⟩ := swapped.exists_parts (by decide)
  exact ofComparisons_of_swapped other inner behind

end Expr

namespace FilterCall

variable {known : String → Bool}

theorem ofTree_of_swapped {call : FilterCall} (other : Nat)
    (swapped : Tree.Swapped exchange.oldLeaf exchange.newLeaf first second)
    (read : ofTree known stop first = .ok call) :
    Varies operands (Expr.ofLiteral other exchange.newLeaf) call (ofTree known other second) := by
  cases ofTree_eq_ok_iff.1 read with
  | alone =>
      obtain ⟨_, _, -, -, ⟨isName, _⟩ | ⟨_, ⟨⟩⟩⟩ := swapped.exists_parts (by decide)
      exact absurd isName (Tree.not_swapped (by decide) rfl)
  | @given _ name _ _ _ _ expr registered argument =>
      obtain ⟨_, _, rfl, -, ⟨isName, _⟩ | ⟨⟨_⟩, ⟨operand, _⟩ | ⟨_, ⟨⟩⟩⟩⟩ :=
        swapped.exists_parts (by decide)
      · exact absurd isName (Tree.not_swapped (by decide) rfl)
      · have varies := Expr.ofPrimary_of_swapped other operand argument
        refine varies.map
          (fun argument => FilterCall.mk (String.ofList name) (some argument)) [] []
          (fun _ => by simp [operands]) ?_
        rw [ofTree]
        simp only [registered, if_true]
        cases Expr.ofPrimary other _ <;> rfl

theorem ofTrees_of_swapped {calls : List FilterCall} (other : Nat)
    (swapped : Tree.SwappedIn exchange.oldLeaf exchange.newLeaf trees others)
    (read : ofTrees known stop trees = .ok calls) :
    Varies (List.flatMap operands) (Expr.ofLiteral other exchange.newLeaf) calls
      (ofTrees known other others) := by
  rw [ofTrees_eq_ok_iff] at read
  induction read generalizing others with
  | done =>
      obtain ⟨tag, _⟩ | ⟨_, ⟨⟩⟩ := swapped
      exact absurd tag (Tree.not_swapped (by decide) rfl)
  | @cons _ trees call calls here later ih =>
      obtain ⟨filter, _⟩ | ⟨same, inner⟩ := swapped
      · have varies := ofTree_of_swapped other filter here
        refine varies.map (fun call => call :: calls) [] (calls.flatMap operands) (fun _ => rfl) ?_
        have isFilter := rule_of_ofTree here
        rw [ofTrees_cons_eq ((filter.rule_eq (by rw [isFilter]; rfl)).trans isFilter),
          ofTrees_of_same (Tree.same_self_all trees) (ofTrees_eq_ok_iff.2 later)]
        cases ofTree known other _ <;> rfl
      · have varies := ih inner
        refine varies.map (fun calls => call :: calls) call.operands [] (fun _ => by simp) ?_
        have again : ofTree known other _ = .ok call := ofTree_of_same same here
        rw [ofTrees_cons_eq (rule_of_ofTree again), again]
        cases ofTrees known other _ <;> rfl

end FilterCall

theorem Output.ofTrees_of_swapped {known : String → Bool} {output : Output} (other : Nat)
    (swapped : Tree.SwappedIn exchange.oldLeaf exchange.newLeaf trees others)
    (read : ofTrees known stop trees = .ok output) :
    Varies operands (Expr.ofLiteral other exchange.newLeaf) output
      (ofTrees known other others) := by
  obtain ⟨comparison, filters, rfl, here, behind⟩ := Output.ofTrees_eq_ok_iff.1 read
  obtain ⟨expr, calls⟩ := output
  obtain ⟨operand, _⟩ | ⟨same, inner⟩ := swapped
  · have varies := Expr.ofComparison_of_swapped other operand here
    refine varies.map (fun expr => Output.mk expr calls) []
      (calls.flatMap FilterCall.operands) (fun _ => rfl) ?_
    rw [ofTrees, FilterCall.ofTrees_of_same (Tree.same_self_all filters) behind]
    cases Expr.ofComparison other _ <;> rfl
  · have varies := FilterCall.ofTrees_of_swapped other inner behind
    refine varies.map (fun calls => Output.mk expr calls) expr.operands []
      (fun _ => by simp [operands]) ?_
    rw [ofTrees, Expr.ofComparison_of_same same here]
    cases FilterCall.ofTrees known other _ <;> rfl

theorem TagInside.valuesOf_of_swapped {values : List Expr} (other : Nat)
    (swapped : Tree.SwappedIn exchange.oldLeaf exchange.newLeaf trees others)
    (read : valuesOf stop trees = .ok values) :
    Varies (List.flatMap Expr.operands) (Expr.ofLiteral other exchange.newLeaf) values
      (valuesOf other others) := by
  rw [valuesOf_eq_ok_iff] at read
  induction read generalizing others with
  | nil => cases swapped
  | done =>
      obtain ⟨tag, _⟩ | ⟨_, ⟨⟩⟩ := swapped
      exact absurd tag (Tree.not_swapped (by decide) rfl)
  | or _ ih =>
      obtain ⟨word, _⟩ | ⟨⟨_⟩, inner⟩ := swapped
      · exact absurd word (Tree.not_swapped (by decide) rfl)
      · have varies := ih inner
        exact varies
  | @cons _ trees value values here later ih =>
      obtain ⟨operand, _⟩ | ⟨same, inner⟩ := swapped
      · have varies := Expr.ofPrimary_of_swapped other operand here
        refine varies.map (fun value => value :: values) []
          (values.flatMap Expr.operands) (fun _ => rfl) ?_
        have isPrimary := Expr.rule_of_ofPrimary here
        rw [valuesOf_cons_eq ((operand.rule_eq (by rw [isPrimary]; rfl)).trans isPrimary),
          valuesOf_of_same (Tree.same_self_all trees) (valuesOf_eq_ok_iff.2 later)]
        cases Expr.ofPrimary other _ <;> rfl
      · have varies := ih inner
        refine varies.map (fun values => value :: values) value.operands [] (fun _ => by simp) ?_
        have again : Expr.ofPrimary other _ = .ok value := Expr.ofPrimary_of_same same here
        rw [valuesOf_cons_eq (Expr.rule_of_ofPrimary again), again]
        cases valuesOf other _ <;> rfl

end

end Stencil
