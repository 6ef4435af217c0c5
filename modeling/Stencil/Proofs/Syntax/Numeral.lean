import Stencil.Proofs.Syntax.Acceptance
import Stencil.Proofs.Syntax.Operands

/-!
# Numerals in the inside of a tag

Where the numerals among the operands of a tag stand, and what the tag says when
another numeral is in the place of one of them.
-/

namespace Stencil

open Grammar (Exchange IsNumeral Peg Sealed Tree)
open Stencil.Grammar.Tree (numeralsOf)

/-- A numeral of a source: the rule that reads it, its text and its byte position. -/
structure Numeral where
  rule : Grammar.Rule
  text : List Char
  position : Nat

namespace Numeral

/-- The numeral of a tree, when the inside of its tag ends at `stop`. -/
def ofTree (stop : Nat) : Tree → Numeral
  | ⟨rule, text, start, _⟩ => ⟨rule, text, stop - Text.width start⟩

/-- The value of a numeral, or the problem of reading it. -/
def value (numeral : Numeral) : Checked Value :=
  Expr.ofLiteral numeral.position ⟨numeral.rule, numeral.text, [], []⟩

end Numeral

/-- A numeral is read in the same way wherever its tag ends. -/
theorem Expr.ofLiteral_eq_value {rule : Grammar.Rule} {back text : List Char}
    (numeral : IsNumeral back rule text) (stop : Nat) (start : List Char) :
    ofLiteral stop ⟨rule, text, start, []⟩ =
      Numeral.value ⟨rule, text, stop - Text.width start⟩ := by
  rcases numeral.rule_eq with rfl | rfl <;> rfl

/-- The old numeral of an exchange is among what a grammar reads. -/
def Grammar.Exchange.Reached (exchange : Exchange) (grammar : Peg) (front : List Char) : Prop :=
  ∃ trees rest, grammar.read (exchange.before front) = some (trees, rest) ∧ exchange.Occurs trees

namespace TagInside

/-- The numerals that a grammar reads in the inside of a tag. -/
def numerals (inside : TagInside) (grammar : Peg) : List Numeral :=
  match grammar.read inside.text with
  | some (trees, _) => (numeralsOf trees).map (.ofTree inside.stop)
  | none => []

/-- A numeral of a tag stands in it, sealed off from what is in front of it. -/
theorem exists_of_mem_numerals {inside : TagInside} {grammar : Peg} (seals : grammar.Seals false)
    {numeral : Numeral} (member : numeral ∈ inside.numerals grammar) :
    ∃ front back, inside.text = front ++ (numeral.text ++ back) ∧ Sealed front ∧
      IsNumeral back numeral.rule numeral.text ∧
      numeral.position = inside.position + Text.width front ∧
      ∃ trees rest, grammar.read inside.text = some (trees, rest) ∧
        ∃ leaf ∈ numeralsOf trees, leaf.start = numeral.text ++ back := by
  unfold numerals at member
  split at member
  case h_2 => cases member
  next trees rest found =>
  obtain ⟨leaf, inTrees, rfl⟩ := List.mem_map.1 member
  obtain ⟨front, whole, closed, -, rule, text, back, rfl, isNumeral⟩ :=
    seals.place found leaf inTrees
  refine ⟨front, back, whole, closed, isNumeral, ?_, trees, rest, found, _, inTrees, rfl⟩
  simp only [Numeral.ofTree, TagInside.stop, whole, Tree.start, Text.width_append]
  omega

section

variable {exchange : Exchange} {front : List Char} {position : Nat} (closed : Sealed front)

/-- The value of the new numeral of an exchange, at the place where it stands. -/
theorem value_newLeaf (front : List Char) (position : Nat) :
    Expr.ofLiteral (stop ⟨exchange.after front, position⟩) exchange.newLeaf =
      Numeral.value ⟨exchange.newRule, exchange.new, position + Text.width front⟩ := by
  rw [Exchange.newLeaf, Expr.ofLiteral_eq_value exchange.newNumeral]
  congr 2
  simp only [TagInside.stop, Exchange.after, Text.width_append, Text.width_nil]
  omega

include closed

theorem exists_parse {rule : Grammar.Rule} {body : Peg} {trees : List Tree}
    (exchanges : (Peg.node rule body).Exchanges exchange) (other : rule ≠ .float ∧ rule ≠ .int)
    (reached : exchange.Reached (.node rule body) front)
    (parsed : parse ⟨exchange.before front, position⟩ (.node rule body) = .ok trees) :
    ∃ others, parse ⟨exchange.after front, position⟩ (.node rule body) = .ok others ∧
      Tree.SwappedIn exchange.oldLeaf exchange.newLeaf trees others := by
  obtain ⟨whole, rest, found, occurs⟩ := reached
  have outcome := exchanges front closed
  rw [found] at outcome
  generalize again : (Peg.node rule body).read (exchange.after front) = reading at outcome
  cases outcome with
  | ahead _ _ absent => exact absurd occurs absent
  | @past _ _ others _ swapped =>
      obtain ⟨⟨children, last⟩, inner, same⟩ := Option.map_eq_some_iff.1 found
      cases same
      rw [parse_eq_of_read inner] at parsed
      cases parsed
      obtain ⟨⟨places, last⟩, innerAgain, same⟩ := Option.map_eq_some_iff.1 again
      cases same
      obtain ⟨root, _⟩ | ⟨_, ⟨⟩⟩ := swapped occurs
      obtain ⟨_, _, same, -, parts⟩ := root.exists_parts other
      cases same
      exact ⟨_, parse_eq_of_read innerAgain, parts⟩

omit closed in
/-- The last tree of a tag is its end. -/
theorem exists_eq_endOfTag {inside : TagInside} {rule : Grammar.Rule} {body : Peg}
    {first last : Tree}
    (parsed : inside.parse (.node rule (body.andThen Grammar.endOfTag)) = .ok [first, last]) :
    ∃ text start, last = ⟨.endOfTag, text, start, []⟩ := by
  rw [parse, Peg.parse] at parsed
  cases found : (Peg.node rule (body.andThen Grammar.endOfTag)).read inside.text with
  | none =>
      rw [found] at parsed
      cases parsed
  | some reading =>
      rw [found] at parsed
      obtain ⟨⟨children, rest⟩, inner, same⟩ := Option.map_eq_some_iff.1 found
      cases same
      cases parsed
      obtain ⟨opened, middle, later, -, ends, joined⟩ := Peg.exists_of_read_andThen inner
      obtain ⟨⟨text, behind⟩, -, same⟩ := Option.map_eq_some_iff.1 ends
      cases same
      have lasts := congrArg List.getLast? joined
      rw [List.getLast?_concat] at lasts
      exact ⟨_, _, Option.some.inj lasts⟩

omit closed in
/-- Only the part in front of the end of a tag can have been swapped. -/
theorem exists_eq_pair {inside : TagInside} {rule : Grammar.Rule} {body : Peg} {tree last : Tree}
    {others : List Tree}
    (parsed : inside.parse (.node rule (body.andThen Grammar.endOfTag)) = .ok [tree, last])
    (swapped : Tree.SwappedIn exchange.oldLeaf exchange.newLeaf [tree, last] others) :
    ∃ swap, others = [swap, last] ∧
      Tree.Swapped exchange.oldLeaf exchange.newLeaf tree swap := by
  obtain ⟨inner, _⟩ | ⟨_, ⟨ends, _⟩ | ⟨_, ⟨⟩⟩⟩ := swapped
  · exact ⟨_, rfl, inner⟩
  · obtain ⟨text, start, rfl⟩ := exists_eq_endOfTag parsed
    exact absurd ends (Tree.not_swapped (by decide) rfl)

/-- What is made of the trees of a tag varies with the numeral as it does for these trees. -/
theorem varies_of_parse {α : Type} {operands : α → List Expr} {made : α} {rule : Grammar.Rule}
    {body : Peg} {make : TagInside → Checked α} {next : TagInside → List Tree → Checked α}
    (makes : ∀ inside, make inside = inside.parse (.node rule body) >>= next inside)
    (exchanges : (Peg.node rule body).Exchanges exchange) (other : rule ≠ .float ∧ rule ≠ .int)
    (later : ∀ {trees others : List Tree},
      parse ⟨exchange.before front, position⟩ (.node rule body) = .ok trees →
      Tree.SwappedIn exchange.oldLeaf exchange.newLeaf trees others →
      next ⟨exchange.before front, position⟩ trees = .ok made →
      Varies operands (Expr.ofLiteral (stop ⟨exchange.after front, position⟩) exchange.newLeaf)
        made (next ⟨exchange.after front, position⟩ others))
    (reached : exchange.Reached (.node rule body) front)
    (read : make ⟨exchange.before front, position⟩ = .ok made) :
    Varies operands
      (Numeral.value ⟨exchange.newRule, exchange.new, position + Text.width front⟩) made
      (make ⟨exchange.after front, position⟩) := by
  rw [makes] at read
  obtain ⟨trees, parsed, read⟩ := Except.bind_eq_ok_iff.1 read
  obtain ⟨others, again, swapped⟩ := exists_parse closed exchanges other reached parsed
  have varies := later parsed swapped read
  rw [value_newLeaf] at varies
  rw [makes, again]
  exact varies

/-! ## What a tag says -/

theorem output_varies {known : String → Bool} {output : Output}
    (reached : exchange.Reached Grammar.outputTag front)
    (read : TagInside.output known ⟨exchange.before front, position⟩ = .ok output) :
    Varies Output.operands
      (Numeral.value ⟨exchange.newRule, exchange.new, position + Text.width front⟩) output
      (TagInside.output known ⟨exchange.after front, position⟩) :=
  varies_of_parse closed (fun _ => rfl) (Grammar.exchanges_outputTag exchange) (by decide)
    (fun _ swapped => Output.ofTrees_of_swapped _ swapped) reached read

theorem values_varies {values : List Expr} (reached : exchange.Reached Grammar.whenTag front)
    (read : TagInside.values ⟨exchange.before front, position⟩ = .ok values) :
    Varies (List.flatMap Expr.operands)
      (Numeral.value ⟨exchange.newRule, exchange.new, position + Text.width front⟩) values
      (TagInside.values ⟨exchange.after front, position⟩) :=
  varies_of_parse closed (fun _ => rfl) (Grammar.exchanges_whenTag exchange) (by decide)
    (fun _ swapped => valuesOf_of_swapped _ swapped) reached read

theorem condition_varies {condition : Expr}
    (reached : exchange.Reached Grammar.conditionTag front)
    (read : TagInside.condition ⟨exchange.before front, position⟩ = .ok condition) :
    Varies Expr.operands
      (Numeral.value ⟨exchange.newRule, exchange.new, position + Text.width front⟩) condition
      (TagInside.condition ⟨exchange.after front, position⟩) := by
  refine varies_of_parse closed (fun _ => rfl) (Grammar.exchanges_conditionTag exchange) (by decide)
    (fun parsed swapped read => ?_) reached read
  split at read
  case h_2 => cases read
  obtain ⟨swap, rfl, inner⟩ := exists_eq_pair parsed swapped
  exact Expr.ofCondition_of_swapped _ inner read

theorem subject_varies {subject : Expr}
    (reached : exchange.Reached Grammar.caseTag front)
    (read : TagInside.subject ⟨exchange.before front, position⟩ = .ok subject) :
    Varies Expr.operands
      (Numeral.value ⟨exchange.newRule, exchange.new, position + Text.width front⟩) subject
      (TagInside.subject ⟨exchange.after front, position⟩) := by
  refine varies_of_parse closed (fun _ => rfl) (Grammar.exchanges_caseTag exchange) (by decide)
    (fun parsed swapped read => ?_) reached read
  split at read
  case h_2 => cases read
  obtain ⟨swap, rfl, inner⟩ := exists_eq_pair parsed swapped
  exact Expr.ofPrimary_of_swapped _ inner read

theorem assignment_varies {known : String → Bool} {assignment : String × Output}
    (reached : exchange.Reached Grammar.assignTag front)
    (read : TagInside.assignment known ⟨exchange.before front, position⟩ = .ok assignment) :
    Varies (fun assignment : String × Output => assignment.2.operands)
      (Numeral.value ⟨exchange.newRule, exchange.new, position + Text.width front⟩) assignment
      (TagInside.assignment known ⟨exchange.after front, position⟩) := by
  refine varies_of_parse closed (fun _ => rfl) (Grammar.exchanges_assignTag exchange) (by decide)
    (fun parsed swapped read => ?_) reached read
  split at read
  case h_2 => cases read
  next text start children trees =>
  obtain ⟨output, outputRead, read⟩ := Except.bind_eq_ok_iff.1 read
  cases read
  obtain ⟨isName, _⟩ | ⟨⟨_⟩, inner⟩ := swapped
  · exact absurd isName (Tree.not_swapped (by decide) rfl)
  · refine (Output.ofTrees_of_swapped _ inner outputRead).map
      (fun output => (String.ofList text, output)) [] [] (fun _ => by simp) ?_
    dsimp only
    cases Output.ofTrees known _ _ <;> rfl

end

end TagInside

end Stencil
