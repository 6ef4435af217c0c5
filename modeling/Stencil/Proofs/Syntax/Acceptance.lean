import Stencil.Proofs.Grammar.Expression
import Stencil.Proofs.Grammar.Locality
import Stencil.Proofs.Syntax.Resemblance

/-!
# Texts that a grammar accepts

A text that is a comparison, or a filter, from end to end is read as the same
before a blank, whatever stands behind it that it could not go on with.
-/

namespace Stencil

open Grammar

namespace Grammar

/-- A text that is set apart is empty, or begins with one of the four blanks of a tag. -/
theorem Spaced.eq_nil_or_cons {back : List Char} (spaced : Spaced back) :
    back = [] ∨ ∃ chars, back = ' ' :: chars ∨ back = '\t' :: chars ∨ back = '\r' :: chars ∨
      back = '\n' :: chars := by
  cases back with
  | nil => exact .inl rfl
  | cons char chars =>
      have blank := spaced char rfl
      simp only [isTagBlank, Bool.or_eq_true, decide_eq_true_eq] at blank
      rcases blank with ((rfl | rfl) | rfl) | rfl <;> exact .inr ⟨chars, by simp⟩

theorem Spaced.outside {back : List Char} (spaced : Spaced back) (char : Char)
    (here : back.head? = some char) : isInnerChar char = false := by
  cases inner : isInnerChar char with
  | false => rfl
  | true =>
      have solid := isTagBlank_of_isInnerChar inner
      rw [spaced char here] at solid
      cases solid

namespace Peg

/-- What is read of a text is read of it before another one too. -/
def ReadsBefore (back : List Char) (grammar : Peg) (front : List Char) : Prop :=
  ∀ trees rest, grammar.read front = some (trees, rest) →
    ∃ others, grammar.read (front ++ back) = some (others, rest ++ back) ∧
      List.Forall₂ Tree.Same trees others

/-- A text is read before another one just as it is at the end. -/
structure Carries (back : List Char) (grammar : Peg) (front : List Char) : Prop where
  fails : grammar.read front = none → grammar.read (front ++ back) = none
  reads : grammar.ReadsBefore back front

variable {back front : List Char} {first second body : Peg}

theorem ReadsBefore.node (reads : body.ReadsBefore back front) (rule : Rule) :
    (Peg.node rule body).ReadsBefore back front := by
  intro trees rest found
  obtain ⟨⟨children, last⟩, here, same⟩ := Option.map_eq_some_iff.1 found
  cases same
  obtain ⟨others, there, alike⟩ := reads _ _ here
  exact ⟨_, read_node there, .cons (.mk alike) .nil⟩

theorem Carries.node (carries : body.Carries back front) (rule : Rule) :
    (Peg.node rule body).Carries back front where
  fails none_read := by
    have inner : body.read front = none := Option.map_eq_none_iff.1 none_read
    rw [read, carries.fails inner, Option.map_none]
  reads := carries.reads.node rule

/-- A choice goes the same way, as far as it comes to its second part. -/
theorem ReadsBefore.orElse (here : first.ReadsBefore back front)
    (refused : first.read front = none → second.read front ≠ none →
      first.read (front ++ back) = none) (there : second.ReadsBefore back front) :
    (first.orElse second).ReadsBefore back front := by
  intro trees rest found
  cases taken : first.read front with
  | some reading =>
      rw [read_orElse_of_some taken] at found
      rw [found] at taken
      obtain ⟨others, again, alike⟩ := here _ _ taken
      exact ⟨others, read_orElse_of_some again, alike⟩
  | none =>
      rw [read_orElse_of_none taken] at found
      rw [read_orElse_of_none (refused taken (by simp [found]))]
      exact there _ _ found

theorem Carries.orElse (here : first.Carries back front) (there : second.Carries back front) :
    (first.orElse second).Carries back front where
  fails none_read := by
    cases taken : first.read front with
    | some reading =>
        rw [read_orElse_of_some taken] at none_read
        cases none_read
    | none =>
        rw [read_orElse_of_none taken] at none_read
        rw [read_orElse_of_none (here.fails taken), there.fails none_read]
  reads := here.reads.orElse (fun none_read _ => here.fails none_read) there.reads

theorem carries_leaf {accepts : Char → Bool} (inside : body.Inside accepts)
    (outside : ∀ char, back.head? = some char → accepts char = false) (rule : Rule)
    (front : List Char) : (leaf rule body).Carries back front where
  fails none_read := by
    have stops : body.consume front = none := Option.map_eq_none_iff.1 none_read
    refine read_leaf_eq_none ?_
    rw [inside.consume_append outside, stops, Reading.append_none]
  reads trees rest found := by
    obtain ⟨⟨text, last⟩, here, same⟩ := Option.map_eq_some_iff.1 found
    cases same
    have there := inside.consume_append outside front
    rw [here, Reading.append_some] at there
    exact ⟨_, read_leaf there, .cons Tree.same_leaf .nil⟩

theorem carries_of_map_consume {accepts : Char → Bool} (inside : body.Inside accepts)
    (outside : ∀ char, back.head? = some char → accepts char = false)
    (plain : ∀ input, body.read input = (body.consume input).map fun (_, rest) => ([], rest))
    (front : List Char) : body.Carries back front where
  fails none_read := by
    rw [plain, Option.map_eq_none_iff] at none_read
    rw [plain, inside.consume_append outside, none_read]
    rfl
  reads trees rest found := by
    rw [plain] at found
    obtain ⟨⟨text, last⟩, here, same⟩ := Option.map_eq_some_iff.1 found
    cases same
    refine ⟨[], ?_, .nil⟩
    rw [plain, inside.consume_append outside, here]
    rfl

end Peg

/-! ## Operands and operators before a blank -/

section

variable {back : List Char} (spaced : Spaced back) (front : List Char)

include spaced

theorem carries_inner {body : Peg} (inside : body.Inside isInnerChar) (rule : Rule) :
    (Peg.leaf rule body).Carries back front :=
  Peg.carries_leaf inside spaced.outside rule front

theorem carries_literal {word : List Char} (solid : word.all fun char => !isTagBlank char) :
    (Peg.literal word).Carries back front := by
  have inside : (Peg.literal word).Inside fun char => !isTagBlank char :=
    .literal (List.all_eq_true.1 solid)
  refine Peg.carries_of_map_consume inside (fun char here => ?_) (fun _ => rfl) front
  simp [spaced char here]

theorem carries_char {expected : Char} (solid : isTagBlank expected = false) :
    (char expected).Carries back front := by
  have inside : (char expected).Inside fun char => !isTagBlank char :=
    .satisfy fun char same => by
      rw [beq_iff_eq] at same
      simp [same, solid]
  refine Peg.carries_of_map_consume inside (fun char here => ?_) (fun _ => rfl) front
  simp [spaced char here]

theorem carries_comparisonOperator : comparisonOperator.Carries back front := by
  have operator (rule : Rule) {word : List Char} (solid : word.all fun char => !isTagBlank char) :
      (Peg.node rule (.literal word)).Carries back front :=
    (carries_literal spaced front solid).node rule
  have unequal :
      (Peg.node .unequal ((Peg.literal "!=".toList).orElse (.literal "<>".toList))).Carries
        back front :=
    ((carries_literal spaced front (by decide)).orElse
      (carries_literal spaced front (by decide))).node .unequal
  exact (operator .equal (by decide)).orElse <| unequal.orElse <|
    (operator .lessOrEqual (by decide)).orElse <| (operator .greaterOrEqual (by decide)).orElse <|
    (operator .less (by decide)).orElse <| (operator .greater (by decide)).orElse <|
    carries_inner spaced front (inside_word (by decide)) .contains

omit spaced in
theorem readsBefore_string : string.ReadsBefore back front := by
  intro trees rest found
  obtain ⟨quote, content, isQuote, absent, rfl, rfl⟩ := read_string_eq_some_iff.1 found
  refine ⟨_, read_string_eq_some_iff.2 ⟨quote, content, isQuote, absent, ?_, rfl⟩,
    .cons Tree.same_leaf .nil⟩
  simp

/-- No string begins before a blank where none begins at a quote. -/
theorem carries_string (unquoted : ∀ quote, front.head? = some quote → isQuote quote = false) :
    string.Carries back front where
  fails _ := by
    cases found : string.read (front ++ back) with
    | none => rfl
    | some reading =>
        obtain ⟨quote, content, isQuote, -, whole, -⟩ := read_string_eq_some_iff.1 found
        cases front with
        | nil =>
            have blank := spaced quote (by rw [List.nil_append] at whole; rw [whole]; rfl)
            rw [Grammar.isQuote, Bool.or_eq_true, beq_iff_eq, beq_iff_eq] at isQuote
            rcases isQuote with rfl | rfl <;> cases blank
        | cons first front =>
            obtain ⟨rfl, -⟩ := List.cons.inj whole
            rw [unquoted first rfl] at isQuote
            cases isQuote
  reads := readsBefore_string front

theorem readsBefore_primary : primary.ReadsBefore back front := by
  have float := carries_inner spaced front inside_float .float
  have int := carries_inner spaced front inside_int .int
  have boolean := carries_inner spaced front inside_boolean .boolean
  have nil := carries_inner spaced front inside_nil .nil
  have path := carries_inner spaced front inside_path .path
  by_cases quoted : ∃ quote, front.head? = some quote ∧ isQuote quote = true
  · -- Only a string can have been read.
    obtain ⟨quote, head, isQuote⟩ := quoted
    obtain ⟨more, rfl⟩ := List.head?_eq_some_iff.1 head
    obtain ⟨noBoolean, noNil, noPath⟩ := read_word_or_path_of_quote isQuote more
    have noWord : (Grammar.boolean.orElse Grammar.nil).read (quote :: more) = none := by
      rw [Peg.read_orElse_of_none noBoolean, noNil]
    have literal : Grammar.literal.ReadsBefore back (quote :: more) :=
      (float.reads.orElse (fun none_read _ => float.fails none_read) <|
        int.reads.orElse (fun none_read _ => int.fails none_read) <|
        (readsBefore_string _).orElse (fun _ goesOn => absurd noWord goesOn)
          (boolean.orElse nil).reads).node .literal
    exact (literal.orElse (fun _ goesOn => absurd noPath goesOn) path.reads).node .primary
  · have string : Grammar.string.Carries back front := by
      refine carries_string spaced front fun quote head => ?_
      exact Bool.not_eq_true _ ▸ fun isQuote => quoted ⟨quote, head, isQuote⟩
    exact (((float.orElse (int.orElse (string.orElse (boolean.orElse nil)))).node .literal).orElse
      path).node .primary |>.reads

/-- A part with maybe an operand behind it, which does not begin in the text that follows. -/
theorem exists_read_pair_append {first separator : Peg} {front last : List Char}
    {trees : List Tree} (firstReads : first.ReadsBefore back front)
    (carries : ∀ front, separator.Carries back front) (empty : separator.read [] = none)
    (apart : separator.read (skipBlanks back) = none)
    (found : (first.andThen (separator.andThen primary).optional).read front = some (trees, last))
    (whole : skipBlanks last = []) :
    ∃ others behind,
      (first.andThen (separator.andThen primary).optional).read (front ++ back) =
        some (others, behind) ∧
      skipBlanks behind = skipBlanks back ∧ List.Forall₂ Tree.Same trees others := by
  obtain ⟨opened, rest, later, firstRead, secondRead, rfl⟩ := Peg.exists_of_read_andThen found
  obtain ⟨others, again, alike⟩ := firstReads _ _ firstRead
  cases taken : (separator.andThen primary).read (skipBlanks rest) with
  | none =>
      rw [Peg.read_optional_of_none taken] at secondRead
      cases secondRead
      rw [skipBlanks_skipBlanks] at whole
      have bare : (separator.andThen primary).optional.read (skipBlanks (rest ++ back)) =
          some ([], skipBlanks back) := by
        rw [skipBlanks_append_of_eq_nil whole]
        exact Peg.read_optional_of_none (Peg.read_andThen_eq_none apart)
      refine ⟨_, _, Peg.read_andThen again bare, skipBlanks_skipBlanks back, ?_⟩
      simpa using alike
  | some reading =>
      rw [Peg.read_optional_of_some taken] at secondRead
      cases secondRead
      obtain ⟨middle, behind, operand, separatorRead, operandRead, rfl⟩ :=
        Peg.exists_of_read_andThen taken
      obtain ⟨middles, middleAgain, middleAlike⟩ := (carries _).reads _ _ separatorRead
      obtain ⟨operands, operandAgain, operandAlike⟩ :=
        readsBefore_primary spaced _ _ _ operandRead
      have solid : skipBlanks rest ≠ [] := by
        intro none
        rw [none, empty] at separatorRead
        cases separatorRead
      have operandSolid : skipBlanks behind ≠ [] := by
        intro none
        rw [none] at operandRead
        cases operandRead
      rw [← skipBlanks_append_of_ne_nil solid] at middleAgain
      rw [← skipBlanks_append_of_ne_nil operandSolid] at operandAgain
      refine ⟨_, _, Peg.read_andThen again (Peg.read_optional_of_some
        (Peg.read_andThen middleAgain operandAgain)), skipBlanks_append_of_eq_nil whole back, ?_⟩
      exact List.rel_append alike (List.rel_append middleAlike operandAlike)

end

namespace Peg

/-- Nothing is read of an empty text, nor from a blank on. -/
def Solid (grammar : Peg) : Prop :=
  ∀ input, Spaced input → grammar.read input = none

theorem Solid.andThen {first : Peg} (solid : first.Solid) (second : Peg) :
    (first.andThen second).Solid :=
  fun input spaced => read_andThen_eq_none (solid input spaced)

theorem Solid.node {body : Peg} (solid : body.Solid) (rule : Rule) :
    (Peg.node rule body).Solid := by
  intro input spaced
  rw [read, solid input spaced, Option.map_none]

/-- What can be read has no blanks before it. -/
theorem Solid.skipBlanks_append {grammar : Peg} (solid : grammar.Solid) {text rest : List Char}
    {trees : List Tree} (found : grammar.read text = some (trees, rest)) (back : List Char) :
    skipBlanks (text ++ back) = text ++ back := by
  cases text with
  | nil =>
      rw [solid [] (by simp [Spaced])] at found
      cases found
  | cons char chars =>
      refine skipBlanks_cons_of_not_blank ?_ (chars ++ back)
      rw [← Bool.not_eq_true]
      intro blank
      rw [solid _ (spaced_cons blank chars)] at found
      cases found

end Peg

theorem solid_primary : primary.Solid := by
  intro input spaced
  rcases spaced.eq_nil_or_cons with rfl | ⟨chars, rfl | rfl | rfl | rfl⟩ <;> rfl

theorem solid_comparison : Grammar.comparison.Solid :=
  (solid_primary.andThen _).node .comparison

theorem solid_filter : Grammar.filter.Solid := by
  refine Peg.Solid.node (Peg.Solid.andThen (fun input spaced => ?_) _) .filter
  rcases spaced.eq_nil_or_cons with rfl | ⟨chars, rfl | rfl | rfl | rfl⟩ <;> rfl

theorem Peg.Accepts.skipBlanks_append {α : Type} {grammar : Peg} {meaning : Nat → Tree → Checked α}
    {text : List Char} {value : α} (accepted : grammar.Accepts meaning text value)
    (solid : grammar.Solid) (back : List Char) : skipBlanks (text ++ back) = text ++ back := by
  obtain ⟨rest, ⟨tree, found, -⟩, -⟩ := accepted
  exact solid.skipBlanks_append found back

end Grammar

/-! ## Comparisons and filters before other text -/

section

variable {text back : List Char}

/-- A comparison is read before anything that stands behind a blank and is no operator. -/
theorem Expr.reads_append_of_accepts {expr : Expr}
    (accepted : Grammar.comparison.Accepts ofComparison text expr) (apart : Apart back) :
    ∃ last, Grammar.comparison.ReadsAs ofComparison (text ++ back) last expr ∧
      skipBlanks last = skipBlanks back := by
  obtain ⟨rest, ⟨tree, found, means⟩, whole⟩ := accepted
  obtain ⟨⟨children, last⟩, inner, same⟩ := Option.map_eq_some_iff.1 found
  cases same
  obtain ⟨others, behind, again, left, alike⟩ := exists_read_pair_append apart.spaced
    (readsBefore_primary apart.spaced text) (carries_comparisonOperator apart.spaced) rfl
    apart.noOperator inner whole
  exact ⟨behind,
    ⟨_, Peg.read_node again, fun stop => ofComparison_of_same (.mk alike) (means stop)⟩, left⟩

/-- A filter is read before anything that stands behind a blank and is no argument. -/
theorem FilterCall.reads_append_of_accepts {known : String → Bool} {call : FilterCall}
    (accepted : Grammar.filter.Accepts (ofTree known) text call) (apart : Apart back) :
    ∃ last, Grammar.filter.ReadsAs (ofTree known) (text ++ back) last call ∧
      skipBlanks last = skipBlanks back := by
  obtain ⟨rest, ⟨tree, found, means⟩, whole⟩ := accepted
  obtain ⟨⟨children, last⟩, inner, same⟩ := Option.map_eq_some_iff.1 found
  cases same
  obtain ⟨others, behind, again, left, alike⟩ := exists_read_pair_append apart.spaced
    (carries_inner apart.spaced text inside_identLetters .ident).reads
    (fun front => carries_char apart.spaced front (by decide)) rfl apart.noArgument inner whole
  exact ⟨behind, ⟨_, Peg.read_node again, fun stop => ofTree_of_same (.mk alike) (means stop)⟩,
    left⟩

end

namespace Expr

/-- An identifier that is no literal is an operand, even if it is an operator elsewhere. -/
theorem accepts_name {name : String} (named : isName name.toList)
    (other : name.toList ∉ literalWords) :
    primary.Accepts ofPrimary name.toList (.path [name]) := by
  have isPrimary : (path [name]).IsPrimary .block := .path named other (by simp)
  have found := isPrimary.reads detached_nil
  rw [List.append_nil] at found
  have printed : (path [name]).print = name.toList := by simp [print]
  exact ⟨[], printed ▸ found, rfl⟩

theorem accepts_of_operand {text : List Char} {expr : Expr}
    (accepted : primary.Accepts ofPrimary text expr) :
    Grammar.comparison.Accepts ofComparison text expr := by
  obtain ⟨rest, ⟨tree, found, means⟩, whole⟩ := accepted
  have bare : (comparisonOperator.andThen primary).optional.read (skipBlanks rest) =
      some ([], skipBlanks rest) := by
    rw [whole]
    rfl
  exact ⟨skipBlanks rest, ⟨_, Peg.read_node (Peg.read_andThen found bare), means⟩,
    (skipBlanks_skipBlanks rest).trans whole⟩

/-- Two operands with an operator between them. -/
theorem accepts_spelling {operator : CompareOperator} {spelling : String}
    (written : spelling ∈ operator.spellings) {left right : List Char} {leftExpr rightExpr : Expr}
    (leftAccepted : primary.Accepts ofPrimary left leftExpr)
    (rightAccepted : primary.Accepts ofPrimary right rightExpr) :
    Grammar.comparison.Accepts ofComparison
      (left ++ ' ' :: (spelling.toList ++ ' ' :: right))
      (.comparison operator leftExpr rightExpr) := by
  have solid := rightAccepted.skipBlanks_append solid_primary []
  rw [List.append_nil] at solid
  obtain ⟨rest, ⟨first, leftRead, leftMeans⟩, leftWhole⟩ := leftAccepted
  obtain ⟨last, ⟨second, rightRead, rightMeans⟩, rightWhole⟩ := rightAccepted
  obtain ⟨middle, operatorRead, isOperator⟩ := CompareOperator.reads written right
  have spaced : Spaced (' ' :: (spelling.toList ++ ' ' :: right)) := spaced_cons rfl _
  obtain ⟨others, leftAgain, alike⟩ := readsBefore_primary spaced _ _ _ leftRead
  obtain _ | ⟨same, ⟨⟩⟩ := alike
  have compared : (comparisonOperator.andThen primary).optional.read
      (skipBlanks (rest ++ ' ' :: (spelling.toList ++ ' ' :: right))) =
        some ([middle] ++ [second], last) := by
    rw [skipBlanks_append_of_eq_nil leftWhole, skipBlanks_space,
      CompareOperator.skipBlanks_spelling written]
    refine Peg.read_optional_of_some (Peg.read_andThen operatorRead ?_)
    rw [skipBlanks_space, solid, rightRead]
  refine ⟨last, ⟨_, Peg.read_node (Peg.read_andThen leftAgain compared), fun stop => ?_⟩,
    rightWhole⟩
  change ofComparison stop ⟨.comparison, _, _, [_, middle, second]⟩ = _
  simp only [ofComparison, ofPrimary_of_same same (leftMeans stop), rightMeans stop, isOperator]
  rfl

theorem accepts_comparison (operator : CompareOperator) {left right : List Char}
    {leftExpr rightExpr : Expr} (leftAccepted : primary.Accepts ofPrimary left leftExpr)
    (rightAccepted : primary.Accepts ofPrimary right rightExpr) :
    Grammar.comparison.Accepts ofComparison
      (left ++ ' ' :: (operator.text.toList ++ ' ' :: right))
      (.comparison operator leftExpr rightExpr) :=
  accepts_spelling operator.text_mem_spellings leftAccepted rightAccepted

end Expr

namespace TagInside

theorem parse_eq_of_read {inside : TagInside} {rule : Rule} {body : Peg} {trees : List Tree}
    {rest : List Char} (found : body.read inside.text = some (trees, rest)) :
    inside.parse (.node rule body) = .ok trees := by
  rw [parse, Peg.parse, Peg.read_node found]

/-- What follows the only part of a tag. -/
theorem read_endOfTag {body : Peg} {input rest : List Char} {trees : List Tree}
    (found : body.read input = some (trees, rest)) (finished : skipBlanks rest = []) :
    (body.andThen endOfTag).read input = some (trees ++ [⟨.endOfTag, [], [], []⟩], []) := by
  refine Peg.read_andThen found ?_
  rw [finished]
  rfl

end TagInside

/-! ## Filters behind an expression -/

/-- A filter as it is written, and the filter that it is. -/
structure Stage where
  text : List Char
  call : FilterCall

namespace Stage

/-- A filter behind a bar. -/
def source (stage : Stage) : List Char :=
  ' ' :: '|' :: ' ' :: stage.text

/-- The text of an expression and filters behind it. -/
def pipelineSource (text : List Char) (stages : List Stage) : List Char :=
  text ++ stages.flatMap source

variable {known : String → Bool} {stages : List Stage}

theorem apart_flatMap_source (stages : List Stage) : Apart (stages.flatMap source) := by
  cases stages with
  | nil => exact apart_nil
  | cons stage stages => exact apart_space (by decide) (by decide) _

theorem exists_read_filters
    (accepted : ∀ stage ∈ stages,
      Grammar.filter.Accepts (FilterCall.ofTree known) stage.text stage.call) :
    ∃ trees, List.Forall₂ (Tree.Means (FilterCall.ofTree known)) trees (stages.map call) ∧
      ∀ input, skipBlanks input = skipBlanks (stages.flatMap source) →
        ∃ behind, filters.read input = some (trees, behind) ∧ skipBlanks behind = [] := by
  refine Peg.exists_read_many rfl (fun stage => ⟨'|', by simp [source], rfl⟩) ?_
  intro stage member later
  obtain ⟨last, ⟨tree, found, means⟩, left⟩ :=
    FilterCall.reads_append_of_accepts (accepted stage member) (apart_flatMap_source later)
  refine ⟨last, ⟨tree, ?_, means⟩, left⟩
  refine Peg.read_andThen (read_char '|' (' ' :: (stage.text ++ later.flatMap source))) ?_
  rw [skipBlanks_space, (accepted stage member).skipBlanks_append solid_filter, found]

theorem ofTrees_of_means {trees : List Tree} {calls : List FilterCall}
    (means : List.Forall₂ (Tree.Means (FilterCall.ofTree known)) trees calls) (stop : Nat) :
    FilterCall.ofTrees known stop (trees ++ [⟨.endOfTag, [], [], []⟩]) = .ok calls := by
  induction means with
  | nil => rfl
  | cons here _ ih => exact FilterCall.ofTrees_cons (here stop) ih

/-- An expression and filters behind it are read up to the end of their tag. -/
theorem exists_read_pipelineSource {text : List Char} {expr : Expr}
    (textAccepted : Grammar.comparison.Accepts Expr.ofComparison text expr)
    (accepted : ∀ stage ∈ stages,
      Grammar.filter.Accepts (FilterCall.ofTree known) stage.text stage.call) :
    ∃ trees,
      (Grammar.comparison.andThen (Grammar.filters.andThen endOfTag)).read
        (pipelineSource text stages) = some (trees, []) ∧
      ∀ stop, Output.ofTrees known stop trees = .ok ⟨expr, stages.map call⟩ := by
  obtain ⟨calls, callsMean, callsRead⟩ := exists_read_filters accepted
  obtain ⟨last, ⟨tree, exprRead, means⟩, left⟩ :=
    Expr.reads_append_of_accepts textAccepted (apart_flatMap_source stages)
  obtain ⟨behind, filtersRead, whole⟩ := callsRead (skipBlanks last)
    ((skipBlanks_skipBlanks last).trans left)
  refine ⟨_, Peg.read_andThen exprRead (TagInside.read_endOfTag filtersRead whole),
    fun stop => ?_⟩
  simp only [List.singleton_append, Output.ofTrees, means stop, ofTrees_of_means callsMean stop]
  rfl

theorem output_pipelineSource {text : List Char} {expr : Expr}
    (textAccepted : Grammar.comparison.Accepts Expr.ofComparison text expr)
    (accepted : ∀ stage ∈ stages,
      Grammar.filter.Accepts (FilterCall.ofTree known) stage.text stage.call) (position : Nat) :
    TagInside.output known ⟨pipelineSource text stages, position⟩ =
      .ok ⟨expr, stages.map call⟩ := by
  obtain ⟨trees, found, means⟩ := exists_read_pipelineSource textAccepted accepted
  rw [TagInside.output, outputTag, TagInside.parse_eq_of_read found]
  exact means _

end Stage

/-- A name, and an expression with filters that it is set to. -/
theorem TagInside.assignment_of_read {known : String → Bool} {name : String} {value : Output}
    {text rest : List Char} {trees : List Tree} (named : isName name.toList)
    (found : (Grammar.comparison.andThen (Grammar.filters.andThen endOfTag)).read text =
      some (trees, rest))
    (means : ∀ stop, Output.ofTrees known stop trees = .ok value) (position : Nat) :
    assignment known ⟨name.toList ++ ([' ', '=', ' '] ++ text), position⟩ = .ok (name, value) := by
  have ends : WordEnds ([' ', '=', ' '] ++ text) := wordEnds_cons (by decide) _
  have assigned : ((char '=').andThen
      (Grammar.comparison.andThen (Grammar.filters.andThen endOfTag))).read
        (skipBlanks ([' ', '=', ' '] ++ text)) = some ([] ++ trees, rest) := by
    refine Peg.read_andThen (read_char '=' (' ' :: text)) ?_
    have solid := (solid_comparison.andThen _).skipBlanks_append found []
    rw [List.append_nil] at solid
    rw [skipBlanks_space, solid, found]
  have whole := Peg.read_andThen (read_ident ends named) assigned
  rw [assignment, assignTag, parse_eq_of_read whole]
  change (do return (String.ofList name.toList, ← Output.ofTrees known _ trees)) = _
  rw [means, String.ofList_toList]
  rfl

/-! ## Chains of comparisons -/

/-- What is read behind the first comparison of a condition. -/
def Expr.conditionStep (input : List Char) : Peg.Reading Tree :=
  ((Grammar.and.orElse Grammar.or).andThen Grammar.comparison).read (skipBlanks input)

theorem Expr.ofComparisons_cons {stop : Nat} {left middle : Tree} {trees : List Tree}
    {connective : Connective} {leftExpr rightExpr : Expr}
    (first : ofComparison stop left = .ok leftExpr)
    (isConnective : connective? middle = some connective)
    (later : ofComparisons stop trees = .ok rightExpr) :
    ofComparisons stop (left :: middle :: trees) = .ok (.logic connective leftExpr rightExpr) := by
  simp only [ofComparisons, first, later, isConnective]
  rfl

/-- A comparison in a condition, as it is written, and the connective behind it. -/
structure Link where
  text : List Char
  expr : Expr
  connective : Connective

namespace Link

/-- A link and the blanks on both sides of its connective. -/
def source (link : Link) : List Char :=
  link.text ++ ' ' :: (link.connective.text.toList ++ [' '])

/-- The text of links up to a last comparison. -/
def chainSource (links : List Link) (last : List Char) : List Char :=
  links.flatMap source ++ last

/-- Each connective takes everything behind it as its right operand. -/
def chain (links : List Link) (last : Expr) : Expr :=
  links.foldr (fun link behind => .logic link.connective link.expr behind) last

variable {links : List Link} {last : List Char} {expr : Expr}

theorem chainSource_cons (link : Link) (links : List Link) (last : List Char) :
    chainSource (link :: links) last =
      link.text ++ ' ' :: (link.connective.text.toList ++ ' ' :: chainSource links last) := by
  simp [chainSource, source]

theorem skipBlanks_chainSource
    (accepted : ∀ link ∈ links,
      Grammar.comparison.Accepts Expr.ofComparison link.text link.expr)
    (lastAccepted : Grammar.comparison.Accepts Expr.ofComparison last expr) :
    skipBlanks (chainSource links last) = chainSource links last := by
  cases links with
  | nil =>
      have solid := lastAccepted.skipBlanks_append solid_comparison []
      rwa [List.append_nil] at solid
  | cons link links =>
      rw [chainSource_cons]
      exact (accepted link List.mem_cons_self).skipBlanks_append solid_comparison _

theorem exists_repeats_chain
    (accepted : ∀ link ∈ links,
      Grammar.comparison.Accepts Expr.ofComparison link.text link.expr)
    (lastAccepted : Grammar.comparison.Accepts Expr.ofComparison last expr) :
    ∃ first rest found, Grammar.comparison.read (chainSource links last) = some ([first], rest) ∧
      (∀ input, skipBlanks input = skipBlanks rest → ∃ behind,
        Peg.Repeats Expr.conditionStep input found behind ∧ skipBlanks behind = []) ∧
        ∀ stop, Expr.ofComparisons stop (first :: found.flatten) = .ok (chain links expr) := by
  induction links with
  | nil =>
      obtain ⟨rest, ⟨tree, found, means⟩, whole⟩ := lastAccepted
      refine ⟨tree, rest, [], found, fun input same => ?_, means⟩
      refine ⟨input, .stop ?_, same.trans whole⟩
      rw [Expr.conditionStep, same, whole]
      rfl
  | cons link links ih =>
      obtain ⟨here, later⟩ := List.forall_mem_cons.1 accepted
      obtain ⟨second, behind, found, secondRead, repeats, secondMeans⟩ := ih later
      obtain ⟨middle, middleRead, isConnective⟩ := link.connective.reads (chainSource links last)
      have apart := link.connective.apart (' ' :: chainSource links last)
      obtain ⟨rest, ⟨first, firstRead, firstMeans⟩, left⟩ :=
        Expr.reads_append_of_accepts here apart
      rw [skipBlanks_space, link.connective.skipBlanks_text] at left
      rw [← chainSource_cons] at firstRead
      refine ⟨first, rest, ([middle] ++ [second]) :: found, firstRead, fun input same => ?_,
        fun stop => Expr.ofComparisons_cons (firstMeans stop) isConnective (secondMeans stop)⟩
      have step : Expr.conditionStep input = some ([middle] ++ [second], behind) := by
        rw [Expr.conditionStep, same, left]
        refine Peg.read_andThen middleRead ?_
        rw [skipBlanks_space, skipBlanks_chainSource later lastAccepted, secondRead]
      have shorter : behind.length < input.length := by
        have skipped := length_skipBlanks_le input
        have inside := (Peg.spec_of_read _ List.suffix_rfl secondRead).1.length_le
        rw [same, left, List.length_append, List.length_cons] at skipped
        omega
      obtain ⟨last, more, whole⟩ := repeats behind rfl
      exact ⟨last, .next step shorter more, whole⟩

/-- A chain is read as a condition, grouped from the right, wherever it stands. -/
theorem condition_chainSource
    (accepted : ∀ link ∈ links,
      Grammar.comparison.Accepts Expr.ofComparison link.text link.expr)
    (lastAccepted : Grammar.comparison.Accepts Expr.ofComparison last expr) (position : Nat) :
    TagInside.condition ⟨chainSource links last, position⟩ = .ok (chain links expr) := by
  obtain ⟨first, rest, found, firstRead, repeats, means⟩ :=
    exists_repeats_chain accepted lastAccepted
  obtain ⟨behind, more, whole⟩ := repeats (skipBlanks rest) (skipBlanks_skipBlanks rest)
  have read := @Peg.read_node _ _ _ .condition _
    (Peg.read_andThen firstRead (Peg.read_many more))
  rw [TagInside.condition, conditionTag,
    TagInside.parse_eq_of_read (TagInside.read_endOfTag read whole)]
  exact means _

end Link

end Stencil
