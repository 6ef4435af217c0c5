import Stencil.Proofs.Syntax.Acceptance

/-!
# Reading printed tags

The insides of tags that were printed are read back, wherever they stand.
-/

namespace Stencil

open Grammar

variable {config : Config} {delimiter : Delimiter}

/-! ## Expressions -/

namespace Expr

variable {expr : Expr}

theorem IsPrimary.accepts (isPrimary : expr.IsPrimary delimiter) :
    primary.Accepts ofPrimary expr.print expr := by
  have found := isPrimary.reads detached_nil
  rw [List.append_nil] at found
  exact ⟨[], found, rfl⟩

theorem IsComparison.accepts (isComparison : expr.IsComparison delimiter) :
    Grammar.comparison.Accepts ofComparison expr.print expr := by
  cases isComparison with
  | primary isPrimary => exact accepts_of_operand isPrimary.accepts
  | @comparison operator left right left_primary right_primary =>
      have accepted := accepts_comparison operator left_primary.accepts right_primary.accepts
      simpa [print] using accepted

theorem IsCondition.exists_links (isCondition : expr.IsCondition delimiter) :
    ∃ (links : List Link) (last : List Char) (lastExpr : Expr),
      (∀ link ∈ links, Grammar.comparison.Accepts ofComparison link.text link.expr) ∧
      Grammar.comparison.Accepts ofComparison last lastExpr ∧
      expr.print = Link.chainSource links last ∧ expr = Link.chain links lastExpr := by
  induction isCondition with
  | @comparison expr isComparison =>
      exact ⟨[], expr.print, expr, by simp, isComparison.accepts, rfl, rfl⟩
  | @logic connective left right left_comparison right_condition ih =>
      obtain ⟨links, last, lastExpr, accepted, lastAccepted, printed, whole⟩ := ih
      refine ⟨⟨left.print, left, connective⟩ :: links, last, lastExpr,
        List.forall_mem_cons.2 ⟨left_comparison.accepts, accepted⟩, lastAccepted, ?_, ?_⟩
      · rw [Link.chainSource_cons, ← printed]
        simp [print]
      · rw [whole]
        rfl

end Expr

/-! ## Filters and outputs -/

theorem FilterCall.Printable.accepts {call : FilterCall}
    (printable : call.Printable config delimiter) :
    filter.Accepts (ofTree config.hasFilter) call.print call := by
  have known := printable.registered
  obtain ⟨name, argument⟩ := call
  cases argument with
  | none =>
      have nameRead := read_ident detached_nil.wordEnds printable.named
      have bare : ((char ':').andThen primary).optional.read (skipBlanks []) = some ([], []) := rfl
      refine ⟨[], ⟨_, Peg.read_node (Peg.read_andThen nameRead bare), fun stop => ?_⟩, rfl⟩
      simp only [List.append_nil, ofTree, String.ofList_toList, known, if_true]
      rfl
  | some argument =>
      have isPrimary := printable.argument argument rfl
      have ends : WordEnds (':' :: ' ' :: argument.print) := wordEnds_cons (by decide) _
      have nameRead := read_ident ends printable.named
      obtain ⟨rest, ⟨tree, argumentRead, meaning⟩, whole⟩ := isPrimary.accepts
      have afterColon : primary.read (skipBlanks (' ' :: argument.print)) = some ([tree], rest) := by
        have solid := isPrimary.accepts.skipBlanks_append solid_primary []
        rw [List.append_nil] at solid
        rw [skipBlanks_space, solid, argumentRead]
      have taken : ((char ':').andThen primary).optional.read
          (skipBlanks (':' :: ' ' :: argument.print)) = some ([] ++ [tree], rest) := by
        rw [skipBlanks_cons_of_not_blank (by decide)]
        exact Peg.read_optional_of_some (Peg.read_andThen (read_char ':' _) afterColon)
      refine ⟨rest, ⟨_, Peg.read_node (Peg.read_andThen nameRead taken), fun stop => ?_⟩, whole⟩
      simp only [List.nil_append, List.singleton_append, ofTree, String.ofList_toList, meaning stop,
        known, if_true]
      rfl

/-- An output up to the end of its tag. -/
theorem Output.Printable.exists_trees {output : Output}
    (printable : output.Printable config delimiter) :
    ∃ trees,
      (Grammar.comparison.andThen (Grammar.filters.andThen endOfTag)).read output.print =
        some (trees, []) ∧
      ∀ stop, ofTrees config.hasFilter stop trees = .ok output := by
  let stages := output.filters.map fun call => Stage.mk call.print call
  have accepted : ∀ stage ∈ stages,
      Grammar.filter.Accepts (FilterCall.ofTree config.hasFilter) stage.text stage.call := by
    intro stage member
    obtain ⟨call, here, rfl⟩ := List.mem_map.1 member
    exact (printable.filters call here).accepts
  have written : Stage.pipelineSource output.expr.print stages = output.print := by
    rw [Stage.pipelineSource, List.flatMap_map]
    rfl
  have calls : stages.map Stage.call = output.filters := by simp [stages, Function.comp_def]
  have found := Stage.exists_read_pipelineSource printable.comparison.accepts accepted
  rwa [written, calls] at found

/-! ## Values of a `when` -/

namespace TagInside

/-- What stands for a value behind the first. -/
def printBehind (value : Expr) : List Char :=
  [',', ' '] ++ value.print

theorem detached_flatMap (values : List Expr) : Detached (values.flatMap printBehind) := by
  cases values with
  | nil => exact detached_nil
  | cons value values => exact detached_cons (by decide) (by decide) _

theorem valuesOf_of_means {trees : List Tree} {values : List Expr}
    (means : List.Forall₂ (Tree.Means Expr.ofPrimary) trees values) (stop : Nat) :
    valuesOf stop (trees ++ [⟨.endOfTag, [], [], []⟩]) = .ok values := by
  induction means with
  | nil => rfl
  | cons here _ ih => exact valuesOf_cons (here stop) ih

theorem exists_read_values {values : List Expr}
    (primaries : ∀ value ∈ values, value.IsPrimary delimiter) :
    ∃ trees, List.Forall₂ (Tree.Means Expr.ofPrimary) trees (values.map id) ∧
      ∀ input, skipBlanks input = skipBlanks (values.flatMap printBehind) →
        ∃ behind, ((Grammar.or.orElse (char ',')).andThen primary).many.read input =
          some (trees, behind) ∧ skipBlanks behind = [] := by
  apply Peg.exists_read_many
  · rfl
  · exact fun value => ⟨',', by simp [printBehind], rfl⟩
  · intro value member later
    have holds := (primaries value member).holds
    obtain ⟨tree, found, means⟩ := (primaries value member).reads (detached_flatMap later)
    have noWord : Grammar.or.read (',' :: ' ' :: (value.print ++ later.flatMap printBehind)) =
        none := rfl
    refine ⟨_, ⟨tree, ?_, means⟩, rfl⟩
    refine Peg.read_andThen ((Peg.read_orElse_of_none noWord).trans (read_char ',' _)) ?_
    rw [skipBlanks_space, skipBlanks_of_holds holds, found]

/-! ## Insides of tags -/

theorem output_print {value : Output} (printable : value.Printable config .output)
    (position : Nat) : output config.hasFilter ⟨value.print, position⟩ = .ok value := by
  obtain ⟨trees, found, meaning⟩ := printable.exists_trees
  rw [output, outputTag, parse_eq_of_read found]
  exact meaning _

theorem condition_print {expr : Expr} (isCondition : expr.IsCondition .block)
    (position : Nat) : condition ⟨expr.print, position⟩ = .ok expr := by
  obtain ⟨links, last, lastExpr, accepted, lastAccepted, printed, rfl⟩ := isCondition.exists_links
  rw [printed]
  exact Link.condition_chainSource accepted lastAccepted position

theorem subject_print {expr : Expr} (isPrimary : expr.IsPrimary .block) (position : Nat) :
    subject ⟨expr.print, position⟩ = .ok expr := by
  obtain ⟨tree, found, meaning⟩ := isPrimary.reads detached_nil
  rw [List.append_nil] at found
  rw [subject, caseTag, parse_eq_of_read (read_endOfTag found rfl)]
  exact meaning _

theorem values_print {values : List Expr} (nonempty : values ≠ [])
    (primaries : ∀ value ∈ values, value.IsPrimary .block) (position : Nat) :
    TagInside.values ⟨Expr.printValues values, position⟩ = .ok values := by
  obtain ⟨first, rest, rfl⟩ := List.exists_cons_of_ne_nil nonempty
  obtain ⟨here, later⟩ := List.forall_mem_cons.1 primaries
  obtain ⟨trees, means, restRead⟩ := exists_read_values later
  rw [List.map_id] at means
  obtain ⟨tree, firstRead, firstMeans⟩ := here.reads (detached_flatMap rest)
  have whole : Expr.printValues (first :: rest) = first.print ++ rest.flatMap printBehind := by
    rw [Expr.printValues, List.map_cons, Text.intercalate_cons_eq, List.flatMap_map]
    rfl
  obtain ⟨behind, moreRead, finished⟩ := restRead (skipBlanks (rest.flatMap printBehind))
    (skipBlanks_skipBlanks _)
  have taken := Peg.read_andThen firstRead (read_endOfTag moreRead finished)
  rw [← whole] at taken
  rw [TagInside.values, whenTag, parse_eq_of_read taken]
  exact valuesOf_cons (firstMeans _) (valuesOf_of_means means _)

theorem captureName_print {name : String} (named : isName name.toList) (position : Nat) :
    captureName ⟨name.toList, position⟩ = .ok name := by
  have found := read_ident detached_nil.wordEnds named
  rw [List.append_nil] at found
  rw [captureName, captureTag, parse_eq_of_read (read_endOfTag found rfl)]
  exact congrArg Except.ok String.ofList_toList

theorem assignment_print {name : String} {value : Output} (named : isName name.toList)
    (printable : value.Printable config .block) (position : Nat) :
    assignment config.hasFilter ⟨name.toList ++ ([' ', '=', ' '] ++ value.print), position⟩ =
      .ok (name, value) := by
  obtain ⟨trees, valueRead, meaning⟩ := printable.exists_trees
  exact assignment_of_read named valueRead meaning position

end TagInside

end Stencil
