import Stencil.Block
import Stencil.Proofs.Checked
import Stencil.Proofs.Grammar.Place

/-!
# Where the inside of a tag is wrong

Whatever is wrong with the inside of a tag is reported at a byte position of
this inside, between two of its characters or at one of its ends: the inside
cannot be read there, or a filter in it is not registered.
-/

namespace Stencil

open Grammar (Tree)

namespace Checked

/-- A result that, if it is a failure, is one that is allowed. -/
def Fails {α : Type} (allowed : Located Problem → Prop) (result : Checked α) : Prop :=
  ∀ failure, result = .error failure → allowed failure

namespace Fails

variable {α β : Type} {allowed : Located Problem → Prop} {result : Checked α}

theorem ok (value : α) : Fails allowed (.ok value : Checked α) := by
  rintro _ ⟨⟩

theorem fail {problem : Problem} {position : Nat} (here : allowed ⟨problem, position⟩) :
    Fails allowed (Checked.fail problem position : Checked α) := by
  rintro _ ⟨⟩
  exact here

theorem bind {next : α → Checked β} (first : Fails allowed result)
    (later : ∀ value, result = .ok value → Fails allowed (next value)) :
    Fails allowed (result >>= next) := by
  cases result with
  | error failure =>
      rintro _ ⟨⟩
      exact first failure rfl
  | ok value => exact later value rfl

theorem map {change : α → β} (first : Fails allowed result) :
    Fails allowed (result.map change) := by
  cases result with
  | error failure =>
      rintro _ ⟨⟩
      exact first failure rfl
  | ok value => exact ok (change value)

theorem imp {weaker : Located Problem → Prop} (fails : Fails allowed result)
    (weaken : ∀ failure, allowed failure → weaker failure) : Fails weaker result :=
  fun failure same => weaken failure (fails failure same)

end Fails

end Checked

open Checked (Fails)

namespace TagInside

/-- A byte position stands in the inside of a tag, behind some of its characters. -/
def Covers (inside : TagInside) (position : Nat) : Prop :=
  ∃ first rest, inside.text = first ++ rest ∧ position = inside.position + Text.width first

variable {inside : TagInside}

theorem covers_position : inside.Covers inside.position :=
  ⟨[], inside.text, rfl, rfl⟩

theorem covers_stop : inside.Covers inside.stop :=
  ⟨inside.text, [], (List.append_nil _).symm, rfl⟩

/-- A place that is given by what remains from there on. -/
theorem covers_of_suffix {rest : List Char} (ends : rest <:+ inside.text) :
    inside.Covers (inside.stop - Text.width rest) := by
  obtain ⟨first, whole⟩ := ends
  refine ⟨first, rest, whole.symm, ?_⟩
  rw [stop, ← whole, Text.width_append]
  omega

theorem covers_of_within {tree : Tree} (within : tree.Within inside.text) :
    inside.Covers (tree.position inside.stop) :=
  covers_of_suffix within.start_suffix

/-- What is wrong with an inside: it cannot be read, or it has a filter that is not registered. -/
structure Reports (inside : TagInside) (failure : Located Problem) : Prop where
  covers : inside.Covers failure.position
  kind_eq : failure.content.kind = .malformedExpression ∨ failure.content.kind = .unknownFilter

/-- What cannot be read at a place in an inside. -/
theorem Covers.malformed {position : Nat} (covers : inside.Covers position) {problem : Problem}
    (kind_eq : problem.kind = .malformedExpression) : inside.Reports ⟨problem, position⟩ :=
  ⟨covers, .inl kind_eq⟩

end TagInside

open TagInside (covers_position covers_stop covers_of_suffix covers_of_within)

variable {inside : TagInside}

/-! ## Parts of an inside -/

namespace Expr

theorem fails_ofLiteral {tree : Tree} (within : tree.Within inside.text) :
    Fails inside.Reports (ofLiteral inside.stop tree) := by
  unfold ofLiteral
  split
  · split
    · exact .ok _
    · exact .fail ((covers_of_within within).malformed rfl)
  · split
    · exact .ok _
    · exact .fail ((covers_of_within within).malformed rfl)
  · exact .ok _
  · exact .ok _
  · exact .ok _
  · exact .fail ((covers_of_within within).malformed rfl)

theorem fails_ofPrimary {tree : Tree} (within : tree.Within inside.text) :
    Fails inside.Reports (ofPrimary inside.stop tree) := by
  unfold ofPrimary
  split
  · have literal := within.of_child _ List.mem_cons_self
    exact (fails_ofLiteral (literal.of_child _ List.mem_cons_self)).map
  · exact .ok _
  · exact .fail ((covers_of_within within).malformed rfl)

theorem fails_ofComparison {tree : Tree} (within : tree.Within inside.text) :
    Fails inside.Reports (ofComparison inside.stop tree) := by
  unfold ofComparison
  split
  · exact fails_ofPrimary (within.of_child _ List.mem_cons_self)
  · refine .bind (fails_ofPrimary (within.of_child _ (by simp))) fun left _ => ?_
    refine .bind (fails_ofPrimary (within.of_child _ (by simp))) fun right _ => ?_
    split
    · exact .ok _
    · exact .fail ((covers_of_within (within.of_child _ (by simp))).malformed rfl)
  · exact .fail ((covers_of_within within).malformed rfl)

theorem fails_ofComparisons {trees : List Tree}
    (within : ∀ tree ∈ trees, tree.Within inside.text) :
    Fails inside.Reports (ofComparisons inside.stop trees) := by
  induction trees using ofComparisons.induct with
  | case1 => exact .fail (covers_stop.malformed rfl)
  | case2 only => exact fails_ofComparison (within only List.mem_cons_self)
  | case3 left middle rest ih =>
      unfold ofComparisons
      refine .bind (fails_ofComparison (within left List.mem_cons_self)) fun _ _ => ?_
      refine .bind (ih fun tree member => within tree (by simp [member])) fun _ _ => ?_
      split
      · exact .ok _
      · exact .fail ((covers_of_within (within middle (by simp))).malformed rfl)

theorem fails_ofCondition {tree : Tree} (within : tree.Within inside.text) :
    Fails inside.Reports (ofCondition inside.stop tree) := by
  unfold ofCondition
  split
  · exact fails_ofComparisons within.of_child
  · exact .fail ((covers_of_within within).malformed rfl)

end Expr

namespace FilterCall

variable {known : String → Bool}

theorem fails_ofTree {tree : Tree} (within : tree.Within inside.text) :
    Fails inside.Reports (ofTree known inside.stop tree) := by
  unfold ofTree
  split
  · next start word _ _ arguments =>
      have named (argument : Option Expr) : Fails inside.Reports
          (if known (String.ofList word) then .ok ⟨String.ofList word, argument⟩
            else Checked.fail (.unknownFilter (String.ofList word))
              (inside.stop - Text.width start) : Checked FilterCall) := by
        split
        · exact .ok _
        · exact .fail ⟨covers_of_within within, .inr rfl⟩
      rcases arguments with _ | ⟨argument, _ | _⟩
      · exact .bind (.ok none) fun argument _ => named argument
      · have given := Expr.fails_ofPrimary (within.of_child argument (by simp))
        exact .bind given.map fun argument _ => named argument
      · exact .bind (.fail ((covers_of_within within).malformed rfl)) fun argument _ =>
          named argument
  · exact .fail ((covers_of_within within).malformed rfl)

theorem fails_ofTrees {trees : List Tree}
    (within : ∀ tree ∈ trees, tree.Within inside.text) :
    Fails inside.Reports (ofTrees known inside.stop trees) := by
  induction trees with
  | nil => exact .fail (covers_stop.malformed rfl)
  | cons tree trees ih =>
      unfold ofTrees
      split
      · exact .ok _
      · exact .fail (covers_stop.malformed rfl)
      · next first others single same =>
          obtain ⟨rfl, rfl⟩ := List.cons.inj same
          obtain ⟨here, later⟩ := List.forall_mem_cons.1 within
          exact .bind (fails_ofTree here) fun _ _ => .bind (ih later) fun _ _ => .ok _

end FilterCall

theorem Output.fails_ofTrees {known : String → Bool} {trees : List Tree}
    (within : ∀ tree ∈ trees, tree.Within inside.text) :
    Fails inside.Reports (Output.ofTrees known inside.stop trees) := by
  cases trees with
  | nil => exact .fail (covers_stop.malformed rfl)
  | cons comparison filters =>
      obtain ⟨here, later⟩ := List.forall_mem_cons.1 within
      exact .bind (Expr.fails_ofComparison here) fun _ _ =>
        .bind (FilterCall.fails_ofTrees later) fun _ _ => .ok _

/-! ## Whole insides -/

namespace TagInside

theorem fails_valuesOf {trees : List Tree}
    (within : ∀ tree ∈ trees, tree.Within inside.text) :
    Fails inside.Reports (valuesOf inside.stop trees) := by
  induction trees with
  | nil => exact .ok _
  | cons tree trees ih =>
      obtain ⟨here, later⟩ := List.forall_mem_cons.1 within
      unfold valuesOf
      split
      · exact .ok _
      · exact .ok _
      · next same =>
          obtain ⟨rfl, rfl⟩ := List.cons.inj same
          exact ih later
      · next first others single connective same =>
          obtain ⟨rfl, rfl⟩ := List.cons.inj same
          exact .bind (Expr.fails_ofPrimary here) fun _ _ => .bind (ih later) fun _ _ => .ok _

theorem fails_parse (grammar : Grammar.Peg) : Fails inside.Reports (inside.parse grammar) := by
  unfold parse
  split
  · exact .ok _
  · exact .fail (covers_position.malformed rfl)
  · next attempts failed =>
      obtain ⟨rest, ends, remaining⟩ := Grammar.Peg.within_of_parse_eq_error failed
      rw [remaining]
      exact .fail ((covers_of_suffix ends).malformed rfl)

theorem within_of_parse {grammar : Grammar.Peg} {trees : List Tree}
    (parsed : inside.parse grammar = .ok trees) : ∀ tree ∈ trees, tree.Within inside.text := by
  unfold parse at parsed
  split at parsed
  · next read =>
      cases parsed
      have root := Grammar.Peg.within_of_parse_eq_ok read
      exact (root _ List.mem_cons_self).of_child
  · cases parsed
  · cases parsed

/-- An inside that is read by a rule of the grammar, and then turned into something. -/
theorem fails_parse_bind {α : Type} (grammar : Grammar.Peg) {next : List Tree → Checked α}
    (later : ∀ trees, (∀ tree ∈ trees, tree.Within inside.text) →
      Fails inside.Reports (next trees)) :
    Fails inside.Reports (inside.parse grammar >>= next) :=
  .bind (fails_parse grammar) fun trees parsed => later trees (within_of_parse parsed)

theorem fails_output (known : String → Bool) : Fails inside.Reports (inside.output known) :=
  fails_parse_bind _ fun _ within => Output.fails_ofTrees within

theorem fails_condition : Fails inside.Reports inside.condition := by
  refine fails_parse_bind _ fun trees within => ?_
  split
  · exact Expr.fails_ofCondition (within _ List.mem_cons_self)
  · exact .fail (covers_position.malformed rfl)

theorem fails_subject : Fails inside.Reports inside.subject := by
  refine fails_parse_bind _ fun trees within => ?_
  split
  · exact Expr.fails_ofPrimary (within _ List.mem_cons_self)
  · exact .fail (covers_position.malformed rfl)

theorem fails_values : Fails inside.Reports inside.values :=
  fails_parse_bind _ fun _ within => fails_valuesOf within

theorem fails_captureName : Fails inside.Reports inside.captureName := by
  refine fails_parse_bind _ fun trees within => ?_
  split
  · exact .ok _
  · exact .fail (covers_position.malformed rfl)

theorem fails_assignment (known : String → Bool) :
    Fails inside.Reports (inside.assignment known) := by
  refine fails_parse_bind _ fun trees within => ?_
  split
  · exact .bind (Output.fails_ofTrees (List.forall_mem_cons.1 within).2) fun _ _ => .ok _
  · exact .fail (covers_position.malformed rfl)

end TagInside

end Stencil
