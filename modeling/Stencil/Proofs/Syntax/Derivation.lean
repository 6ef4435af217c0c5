import Stencil.Proofs.Checked
import Stencil.Syntax.OfTree

/-!
# What syntax is derived from

The trees that some syntax can be derived from, as relations with one rule for
each form of a tree.  A tree is read as some syntax exactly when a rule derives
the one from the other.
-/

namespace Stencil

open Grammar (Rule Tree)

variable {stop : Nat} {tree : Tree} {trees : List Tree}

namespace Expr

variable {expr : Expr}

/-- A value is derived from the rule that has read a literal, and from its text. -/
inductive DerivesLiteral : Tree → Value → Prop
  | int {text start : List Char} {parts : List Tree} {value : Int}
      (known : integerLiteral? text = some value) :
      DerivesLiteral ⟨.int, text, start, parts⟩ (.ofInt value)
  | float {text start : List Char} {parts : List Tree} {value : Double}
      (known : Double.read? .double text = some value) :
      DerivesLiteral ⟨.float, text, start, parts⟩ (.ofDouble value)
  | string {text start : List Char} {parts : List Tree} :
      DerivesLiteral ⟨.string, text, start, parts⟩ (.ofText (text.drop 1).dropLast)
  | boolean {text start : List Char} {parts : List Tree} :
      DerivesLiteral ⟨.boolean, text, start, parts⟩ (.bool (text == "true".toList))
  | nil {text start : List Char} {parts : List Tree} :
      DerivesLiteral ⟨.nil, text, start, parts⟩ .nil

theorem ofLiteral_eq_ok_iff {value : Value} :
    ofLiteral stop tree = .ok value ↔ DerivesLiteral tree value := by
  constructor
  · intro read
    unfold ofLiteral at read
    split at read
    · split at read <;> cases read
      exact .int ‹_›
    · split at read <;> cases read
      exact .float ‹_›
    · cases read
      exact .string
    · cases read
      exact .boolean
    · cases read
      exact .nil
    · cases read
  · rintro (known | known | _ | _ | _)
    · rw [ofLiteral, known]
    · rw [ofLiteral, known]
    · rfl
    · rfl
    · rfl

/-- An operand is derived from a literal or from the text of a path. -/
inductive DerivesPrimary (stop : Nat) : Tree → Expr → Prop
  | literal {content inner start place : List Char} {tree : Tree} {value : Value}
      (known : ofLiteral stop tree = .ok value) :
      DerivesPrimary stop ⟨.primary, content, start, [⟨.literal, inner, place, [tree]⟩]⟩
        (.literal value)
  | path {content text start place : List Char} {parts : List Tree} :
      DerivesPrimary stop ⟨.primary, content, start, [⟨.path, text, place, parts⟩]⟩
        (.path ((Text.splitPath text).map String.ofList))

theorem ofPrimary_eq_ok_iff : ofPrimary stop tree = .ok expr ↔ DerivesPrimary stop tree expr := by
  constructor
  · intro read
    unfold ofPrimary at read
    split at read
    · obtain ⟨value, known, rfl⟩ := Except.map_eq_ok_iff.1 read
      exact .literal known
    · cases read
      exact .path
    · cases read
  · rintro (known | _)
    · rw [ofPrimary, known]
      rfl
    · rfl

theorem rule_of_ofPrimary (read : ofPrimary stop tree = .ok expr) : tree.rule = .primary := by
  cases ofPrimary_eq_ok_iff.1 read <;> rfl

/-- A comparison is derived from one operand, or from two with an operator between them. -/
inductive DerivesComparison (stop : Nat) : Tree → Expr → Prop
  | operand {content start : List Char} {tree : Tree} {expr : Expr}
      (here : ofPrimary stop tree = .ok expr) :
      DerivesComparison stop ⟨.comparison, content, start, [tree]⟩ expr
  | comparison {content start : List Char} {first middle last : Tree} {left right : Expr}
      {operator : CompareOperator} (leftHere : ofPrimary stop first = .ok left)
      (known : operator? middle = some operator) (rightHere : ofPrimary stop last = .ok right) :
      DerivesComparison stop ⟨.comparison, content, start, [first, middle, last]⟩
        (.comparison operator left right)

theorem ofComparison_eq_ok_iff :
    ofComparison stop tree = .ok expr ↔ DerivesComparison stop tree expr := by
  constructor
  · intro read
    unfold ofComparison at read
    split at read
    · exact .operand read
    · obtain ⟨left, leftHere, read⟩ := Except.bind_eq_ok_iff.1 read
      obtain ⟨right, rightHere, read⟩ := Except.bind_eq_ok_iff.1 read
      split at read
      · next known =>
          cases read
          exact .comparison leftHere known rightHere
      · cases read
    · cases read
  · rintro (here | ⟨leftHere, known, rightHere⟩)
    · exact here
    · rw [ofComparison, leftHere, rightHere]
      simp only [bind, Except.bind, known]
      rfl

/-- A condition is derived from one comparison, or from one that a connective joins to a condition
behind it. -/
inductive DerivesComparisons (stop : Nat) : List Tree → Expr → Prop
  | last {tree : Tree} {expr : Expr} (here : ofComparison stop tree = .ok expr) :
      DerivesComparisons stop [tree] expr
  | logic {tree middle : Tree} {trees : List Tree} {left right : Expr} {connective : Connective}
      (here : ofComparison stop tree = .ok left) (known : connective? middle = some connective)
      (later : DerivesComparisons stop trees right) :
      DerivesComparisons stop (tree :: middle :: trees) (.logic connective left right)

theorem ofComparisons_eq_ok_iff :
    ofComparisons stop trees = .ok expr ↔ DerivesComparisons stop trees expr := by
  constructor
  · intro read
    induction trees using ofComparisons.induct generalizing expr with
    | case1 => cases read
    | case2 only => exact .last read
    | case3 left middle rest ih =>
        unfold ofComparisons at read
        obtain ⟨first, here, read⟩ := Except.bind_eq_ok_iff.1 read
        obtain ⟨second, behind, read⟩ := Except.bind_eq_ok_iff.1 read
        split at read
        · next known =>
            cases read
            exact .logic here known (ih behind)
        · cases read
  · intro derives
    induction derives with
    | last here => exact here
    | logic here known _ ih =>
        rw [ofComparisons, here, ih]
        simp only [bind, Except.bind, known]
        rfl

theorem ofCondition_eq_ok_iff :
    ofCondition stop tree = .ok expr ↔
      ∃ content start comparisons, tree = ⟨.condition, content, start, comparisons⟩ ∧
        ofComparisons stop comparisons = .ok expr := by
  constructor
  · intro read
    unfold ofCondition at read
    split at read
    · exact ⟨_, _, _, rfl, read⟩
    · cases read
  · rintro ⟨content, start, comparisons, rfl, read⟩
    exact read

end Expr

namespace FilterCall

variable {known : String → Bool} {call : FilterCall} {calls : List FilterCall}

/-- A filter is derived from a name that is registered, and an operand if it has an argument. -/
inductive Derives (known : String → Bool) (stop : Nat) : Tree → FilterCall → Prop
  | alone {content word start place : List Char} {parts : List Tree}
      (registered : known (String.ofList word)) :
      Derives known stop ⟨.filter, content, start, [⟨.ident, word, place, parts⟩]⟩
        ⟨String.ofList word, none⟩
  | given {content word start place : List Char} {parts : List Tree} {tree : Tree} {expr : Expr}
      (registered : known (String.ofList word)) (argument : Expr.ofPrimary stop tree = .ok expr) :
      Derives known stop ⟨.filter, content, start, [⟨.ident, word, place, parts⟩, tree]⟩
        ⟨String.ofList word, some expr⟩

theorem ofName_eq_ok_iff {name : String} {argument : Option Expr} {position : Nat} :
    (if known name then pure ⟨name, argument⟩
      else Checked.fail (.unknownFilter name) position : Checked FilterCall) = .ok call ↔
        known name ∧ call = ⟨name, argument⟩ := by
  by_cases registered : known name
  · simp [registered, pure, Except.pure, eq_comm]
  · simp [registered, Checked.fail]

theorem ofTree_eq_ok_iff :
    ofTree known stop tree = .ok call ↔ Derives known stop tree call := by
  constructor
  · intro read
    unfold ofTree at read
    split at read
    · next arguments =>
        rcases arguments with _ | ⟨argument, _ | _⟩
        · obtain ⟨registered, rfl⟩ := ofName_eq_ok_iff.1 read
          exact .alone registered
        · obtain ⟨value, argumentRead, read⟩ := Except.bind_eq_ok_iff.1 read
          obtain ⟨expr, here, rfl⟩ := Except.map_eq_ok_iff.1 argumentRead
          obtain ⟨registered, rfl⟩ := ofName_eq_ok_iff.1 read
          exact .given registered here
        · cases read
    · cases read
  · rintro (registered | ⟨registered, argument⟩)
    · rw [ofTree]
      exact if_pos registered
    · rw [ofTree]
      simp only [argument]
      exact if_pos registered

theorem rule_of_ofTree (read : ofTree known stop tree = .ok call) : tree.rule = .filter := by
  cases ofTree_eq_ok_iff.1 read <;> rfl

/-- The filters of a tag are derived one by one up to its end. -/
inductive DerivesAll (known : String → Bool) (stop : Nat) : List Tree → List FilterCall → Prop
  | done {content start : List Char} {parts : List Tree} :
      DerivesAll known stop [⟨.endOfTag, content, start, parts⟩] []
  | cons {tree : Tree} {trees : List Tree} {call : FilterCall} {calls : List FilterCall}
      (here : ofTree known stop tree = .ok call) (later : DerivesAll known stop trees calls) :
      DerivesAll known stop (tree :: trees) (call :: calls)

theorem ofTrees_cons_eq (isFilter : tree.rule = .filter) (trees : List Tree) :
    ofTrees known stop (tree :: trees) = do
      let call ← ofTree known stop tree
      let calls ← ofTrees known stop trees
      return call :: calls := by
  obtain ⟨rule, content, start, children⟩ := tree
  obtain rfl : rule = .filter := isFilter
  simp only [ofTrees]

theorem ofTrees_cons (here : ofTree known stop tree = .ok call)
    (later : ofTrees known stop trees = .ok calls) :
    ofTrees known stop (tree :: trees) = .ok (call :: calls) := by
  rw [ofTrees_cons_eq (rule_of_ofTree here), here, later]
  rfl

theorem ofTrees_eq_ok_iff :
    ofTrees known stop trees = .ok calls ↔ DerivesAll known stop trees calls := by
  constructor
  · intro read
    induction trees generalizing calls with
    | nil => cases read
    | cons tree trees ih =>
        unfold ofTrees at read
        split at read
        · next same =>
            obtain ⟨rfl, rfl⟩ := List.cons.inj same
            cases read
            exact .done
        · next same => cases same
        · next same =>
            obtain ⟨rfl, rfl⟩ := List.cons.inj same
            obtain ⟨call, here, read⟩ := Except.bind_eq_ok_iff.1 read
            obtain ⟨rest, behind, read⟩ := Except.bind_eq_ok_iff.1 read
            cases read
            exact .cons here (ih behind)
  · intro derives
    induction derives with
    | done => rfl
    | cons here _ ih => exact ofTrees_cons here ih

end FilterCall

/-- An output is derived from a comparison and the filters behind it. -/
theorem Output.ofTrees_eq_ok_iff {known : String → Bool} {output : Output} :
    ofTrees known stop trees = .ok output ↔
      ∃ comparison filters, trees = comparison :: filters ∧
        Expr.ofComparison stop comparison = .ok output.expr ∧
          FilterCall.ofTrees known stop filters = .ok output.filters := by
  constructor
  · intro read
    cases trees with
    | nil => cases read
    | cons comparison filters =>
        obtain ⟨expr, here, read⟩ := Except.bind_eq_ok_iff.1 read
        obtain ⟨calls, behind, read⟩ := Except.bind_eq_ok_iff.1 read
        cases read
        exact ⟨comparison, filters, rfl, here, behind⟩
  · rintro ⟨comparison, filters, rfl, here, behind⟩
    rw [ofTrees, here, behind]
    rfl

namespace TagInside

variable {value : Expr} {values : List Expr}

/-- Values are derived one by one up to the end of the tag; connectives between them say nothing. -/
inductive DerivesValues (stop : Nat) : List Tree → List Expr → Prop
  | nil : DerivesValues stop [] []
  | done {content start : List Char} {parts : List Tree} :
      DerivesValues stop [⟨.endOfTag, content, start, parts⟩] []
  | or {content start : List Char} {parts trees : List Tree} {values : List Expr}
      (later : DerivesValues stop trees values) :
      DerivesValues stop (⟨.or, content, start, parts⟩ :: trees) values
  | cons {tree : Tree} {trees : List Tree} {value : Expr} {values : List Expr}
      (here : Expr.ofPrimary stop tree = .ok value) (later : DerivesValues stop trees values) :
      DerivesValues stop (tree :: trees) (value :: values)

theorem valuesOf_cons_eq (isPrimary : tree.rule = .primary) (trees : List Tree) :
    valuesOf stop (tree :: trees) = do
      let value ← Expr.ofPrimary stop tree
      let values ← valuesOf stop trees
      return value :: values := by
  obtain ⟨rule, content, start, children⟩ := tree
  obtain rfl : rule = .primary := isPrimary
  simp only [valuesOf]

theorem valuesOf_cons (here : Expr.ofPrimary stop tree = .ok value)
    (later : valuesOf stop trees = .ok values) :
    valuesOf stop (tree :: trees) = .ok (value :: values) := by
  rw [valuesOf_cons_eq (Expr.rule_of_ofPrimary here), here, later]
  rfl

theorem valuesOf_eq_ok_iff :
    valuesOf stop trees = .ok values ↔ DerivesValues stop trees values := by
  constructor
  · intro read
    induction trees generalizing values with
    | nil =>
        cases read
        exact .nil
    | cons tree trees ih =>
        unfold valuesOf at read
        split at read
        · next same => cases same
        · next same =>
            obtain ⟨rfl, rfl⟩ := List.cons.inj same
            cases read
            exact .done
        · next same =>
            obtain ⟨rfl, rfl⟩ := List.cons.inj same
            exact .or (ih read)
        · next same =>
            obtain ⟨rfl, rfl⟩ := List.cons.inj same
            obtain ⟨value, here, read⟩ := Except.bind_eq_ok_iff.1 read
            obtain ⟨rest, behind, read⟩ := Except.bind_eq_ok_iff.1 read
            cases read
            exact .cons here (ih behind)
  · intro derives
    induction derives with
    | nil => rfl
    | done => rfl
    | or _ ih => exact ih
    | cons here _ ih => exact valuesOf_cons here ih

/-- An assignment is derived from a name and the output behind it. -/
theorem assignment_eq_ok_iff {known : String → Bool} {inside : TagInside} {name : String}
    {output : Output} :
    inside.assignment known = .ok (name, output) ↔
      ∃ text start parts trees,
        inside.parse Grammar.assignTag = .ok (⟨.ident, text, start, parts⟩ :: trees) ∧
          name = String.ofList text ∧ Output.ofTrees known inside.stop trees = .ok output := by
  constructor
  · intro read
    obtain ⟨trees, parsed, read⟩ := Except.bind_eq_ok_iff.1 read
    split at read
    · obtain ⟨value, here, read⟩ := Except.bind_eq_ok_iff.1 read
      cases read
      exact ⟨_, _, _, _, parsed, rfl, here⟩
    · cases read
  · rintro ⟨text, start, parts, trees, parsed, rfl, here⟩
    rw [assignment, parsed]
    simp only [bind, Except.bind, here]
    rfl

end TagInside

end Stencil
