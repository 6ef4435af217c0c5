import Stencil.Proofs.Grammar.Numeral

/-!
# The trees of a tag

Which trees the grammar of tags has, for whatever text it reads: how many parts
each of them has, by which rules these were read, and in which order they come.
-/

namespace Stencil

namespace Grammar

/-! ## What expressions of the grammar yield -/

namespace Peg

/-- Whatever a grammar reads, its trees are good together. -/
def Yields (grammar : Peg) (good : List Tree → Prop) : Prop :=
  ∀ input trees rest, grammar.read input = some (trees, rest) → good trees

/-- Whatever a grammar reads, it has a single tree, which is good. -/
def YieldsOne (grammar : Peg) (good : Tree → Prop) : Prop :=
  grammar.Yields fun trees => ∃ tree, trees = [tree] ∧ good tree

variable {first second body : Peg} {here there good : List Tree → Prop} {rule : Rule}

theorem Yields.imp (yields : body.Yields here) (weaken : ∀ trees, here trees → good trees) :
    body.Yields good :=
  fun _ _ _ read => weaken _ (yields _ _ _ read)

theorem Yields.andThen (yields : first.Yields here) (later : second.Yields there)
    (joined : ∀ trees others, here trees → there others → good (trees ++ others)) :
    (first.andThen second).Yields good := by
  intro input trees rest read
  obtain ⟨opened, middle, behind, front, back, rfl⟩ := exists_of_read_andThen read
  exact joined opened behind (yields _ _ _ front) (later _ _ _ back)

theorem Yields.orElse (yields : first.Yields good) (otherwise : second.Yields good) :
    (first.orElse second).Yields good := by
  intro input trees rest found
  rw [read] at found
  split at found
  · exact otherwise _ _ _ found
  · next reading taken =>
      cases found
      exact yields _ _ _ taken

theorem Yields.optional (yields : body.Yields good) (empty : good []) :
    body.optional.Yields good := by
  intro input trees rest found
  rw [read] at found
  split at found
  · cases found
    exact empty
  · next reading taken =>
      cases found
      exact yields _ _ _ taken

/-- The trees of a repetition are those of its steps, one after the other. -/
theorem Yields.many (yields : body.Yields here) :
    body.many.Yields fun trees =>
      ∃ groups : List (List Tree), trees = groups.flatten ∧ ∀ group ∈ groups, here group := by
  have steps (bound input : List Char) : ∃ groups : List (List Tree),
      (repeatStep (fun input => body.read (skipBlanks input)) bound input).1 = groups.flatten ∧
        ∀ group ∈ groups, here group := by
    induction bound generalizing input with
    | nil => exact ⟨[], rfl, nofun⟩
    | cons char bound ih =>
        rw [repeatStep]
        split
        · exact ⟨[], rfl, nofun⟩
        · next found rest taken =>
            obtain ⟨groups, same, all⟩ := ih rest
            exact ⟨found :: groups, congrArg (found ++ ·) same,
              List.forall_mem_cons.2 ⟨yields _ _ _ taken, all⟩⟩
  intro input trees rest found
  obtain ⟨groups, same, all⟩ := steps input input
  rw [read, Option.some.injEq] at found
  rw [found] at same
  exact ⟨groups, same, all⟩

theorem Yields.node {single : Tree → Prop}
    (yields : body.Yields fun children => ∀ start, single ⟨rule, [], start, children⟩) :
    (node rule body).YieldsOne single := by
  intro input trees rest found
  obtain ⟨⟨children, last⟩, inner, same⟩ := Option.map_eq_some_iff.1 found
  cases same
  exact ⟨_, rfl, yields _ _ _ inner input⟩

theorem YieldsOne.orElse {single : Tree → Prop} (yields : first.YieldsOne single)
    (otherwise : second.YieldsOne single) : (first.orElse second).YieldsOne single :=
  Yields.orElse yields otherwise

theorem YieldsOne.imp {single weaker : Tree → Prop} (yields : body.YieldsOne single)
    (weaken : ∀ tree, single tree → weaker tree) : body.YieldsOne weaker :=
  Yields.imp yields fun _ ⟨tree, same, holds⟩ => ⟨tree, same, weaken tree holds⟩

theorem yields_char (expected : Char) : (char expected).Yields (· = []) := by
  intro input trees rest found
  obtain ⟨reading, -, same⟩ := Option.map_eq_some_iff.1 found
  cases same
  rfl

/-- A single character has no tree. -/
theorem Yields.behind_char (expected : Char) (yields : body.Yields good) :
    ((char expected).andThen body).Yields good := by
  refine .andThen (yields_char expected) yields ?_
  rintro _ others rfl holds
  exact holds

end Peg

/-! ## Shapes of trees -/

namespace Tree

/-- The tree of a rule that has no parts. -/
def IsLeaf (rule : Rule) (tree : Tree) : Prop :=
  ∃ text start, tree = ⟨rule, text, start, []⟩

/-- What a literal is a literal of; decimals and strings have the texts that they are read by. -/
inductive IsConstant : Tree → Prop
  | int {text start : List Char} : IsConstant ⟨.int, text, start, []⟩
  | float {text start : List Char} (decimal : IsDecimal text) :
      IsConstant ⟨.float, text, start, []⟩
  | string {quote : Char} {content start : List Char} (quotes : isQuote quote) :
      IsConstant ⟨.string, quote :: (content ++ [quote]), start, []⟩
  | boolean {text start : List Char} : IsConstant ⟨.boolean, text, start, []⟩
  | nil {text start : List Char} : IsConstant ⟨.nil, text, start, []⟩

inductive IsLiteral : Tree → Prop
  | mk {start : List Char} {tree : Tree} (constant : tree.IsConstant) :
      IsLiteral ⟨.literal, [], start, [tree]⟩

inductive IsPrimary : Tree → Prop
  | literal {start : List Char} {tree : Tree} (literal : tree.IsLiteral) :
      IsPrimary ⟨.primary, [], start, [tree]⟩
  | path {start : List Char} {tree : Tree} (path : tree.IsLeaf .path) :
      IsPrimary ⟨.primary, [], start, [tree]⟩

def IsOperator (tree : Tree) : Prop :=
  tree.rule ∈ [.equal, .unequal, .lessOrEqual, .greaterOrEqual, .less, .greater, .contains]

def IsConnective (tree : Tree) : Prop :=
  tree.IsLeaf .and ∨ tree.IsLeaf .or

inductive IsComparison : Tree → Prop
  | single {start : List Char} {operand : Tree} (primary : operand.IsPrimary) :
      IsComparison ⟨.comparison, [], start, [operand]⟩
  | pair {start : List Char} {left operator right : Tree} (leftPrimary : left.IsPrimary)
      (isOperator : operator.IsOperator) (rightPrimary : right.IsPrimary) :
      IsComparison ⟨.comparison, [], start, [left, operator, right]⟩

/-- Comparisons with connectives between them. -/
inductive AreComparisons : List Tree → Prop
  | single {tree : Tree} (comparison : tree.IsComparison) : AreComparisons [tree]
  | join {left connective : Tree} {rest : List Tree} (comparison : left.IsComparison)
      (connects : connective.IsConnective) (others : AreComparisons rest) :
      AreComparisons (left :: connective :: rest)

inductive IsCondition : Tree → Prop
  | mk {start : List Char} {children : List Tree} (comparisons : AreComparisons children) :
      IsCondition ⟨.condition, [], start, children⟩

inductive IsFilter : Tree → Prop
  | plain {start : List Char} {name : Tree} (ident : name.IsLeaf .ident) :
      IsFilter ⟨.filter, [], start, [name]⟩
  | given {start : List Char} {name argument : Tree} (ident : name.IsLeaf .ident)
      (primary : argument.IsPrimary) : IsFilter ⟨.filter, [], start, [name, argument]⟩

/-- Values up to the end of a tag, with connectives between some of them. -/
inductive AreValues : List Tree → Prop
  | last {value stop : Tree} (primary : value.IsPrimary) (ends : stop.IsLeaf .endOfTag) :
      AreValues [value, stop]
  | comma {value : Tree} {rest : List Tree} (primary : value.IsPrimary)
      (others : AreValues rest) : AreValues (value :: rest)
  | or {value connective : Tree} {rest : List Tree} (primary : value.IsPrimary)
      (connects : connective.IsLeaf .or) (others : AreValues rest) :
      AreValues (value :: connective :: rest)

/-- A comparison and filters up to the end of a tag. -/
inductive AreOutput : List Tree → Prop
  | mk {comparison stop : Tree} {filters : List Tree} (isComparison : comparison.IsComparison)
      (areFilters : ∀ filter ∈ filters, IsFilter filter) (ends : stop.IsLeaf .endOfTag) :
      AreOutput (comparison :: (filters ++ [stop]))

/-- The tree of what stands in a tag, by the rule that it is read by. -/
inductive IsTag : Rule → Tree → Prop
  | output {start : List Char} {children : List Tree} (output : AreOutput children) :
      IsTag .outputTag ⟨.outputTag, [], start, children⟩
  | condition {start : List Char} {condition stop : Tree} (isCondition : condition.IsCondition)
      (ends : stop.IsLeaf .endOfTag) :
      IsTag .conditionTag ⟨.conditionTag, [], start, [condition, stop]⟩
  | case {start : List Char} {subject stop : Tree} (primary : subject.IsPrimary)
      (ends : stop.IsLeaf .endOfTag) : IsTag .caseTag ⟨.caseTag, [], start, [subject, stop]⟩
  | when {start : List Char} {children : List Tree} (values : AreValues children) :
      IsTag .whenTag ⟨.whenTag, [], start, children⟩
  | capture {start : List Char} {name stop : Tree} (ident : name.IsLeaf .ident)
      (ends : stop.IsLeaf .endOfTag) :
      IsTag .captureTag ⟨.captureTag, [], start, [name, stop]⟩
  | assign {start : List Char} {name : Tree} {children : List Tree} (ident : name.IsLeaf .ident)
      (output : AreOutput children) : IsTag .assignTag ⟨.assignTag, [], start, name :: children⟩

end Tree

/-! ## What the grammar of tags yields -/

open Stencil.Grammar.Tree Peg

theorem yields_leaf (rule : Rule) (body : Peg) : (Peg.leaf rule body).YieldsOne (IsLeaf rule) := by
  intro input trees rest found
  obtain ⟨reading, -, same⟩ := Option.map_eq_some_iff.1 found
  cases same
  exact ⟨_, rfl, _, _, rfl⟩

theorem yields_constant :
    (float.orElse (int.orElse (string.orElse (boolean.orElse nil)))).YieldsOne IsConstant := by
  refine .orElse (fun input trees rest found => ?_) (.orElse ?_ (.orElse
    (fun input trees rest found => ?_) (.orElse ?_ ?_)))
  · obtain ⟨text, decimal, -, rfl⟩ := exists_of_read_float found
    exact ⟨_, rfl, .float decimal⟩
  · exact (yields_leaf _ _).imp fun _ ⟨_, _, same⟩ => same ▸ .int
  · obtain ⟨quote, content, quotes, -, -, rfl⟩ := read_string_eq_some_iff.1 found
    exact ⟨_, rfl, .string quotes⟩
  · exact (yields_leaf _ _).imp fun _ ⟨_, _, same⟩ => same ▸ .boolean
  · exact (yields_leaf _ _).imp fun _ ⟨_, _, same⟩ => same ▸ .nil

theorem yields_primary : primary.YieldsOne IsPrimary := by
  have literals : literal.YieldsOne IsLiteral :=
    .node (Yields.imp yields_constant fun _ ⟨_, same, constant⟩ _ => same ▸ .mk constant)
  refine .node (.orElse ?_ ?_)
  · exact Yields.imp literals fun _ ⟨_, same, isLiteral⟩ _ => same ▸ .literal isLiteral
  · exact Yields.imp (yields_leaf _ _) fun _ ⟨_, same, isPath⟩ _ => same ▸ .path isPath

theorem yields_operator : comparisonOperator.YieldsOne IsOperator := by
  have node {rule : Rule} {body : Peg} (known : rule ∈
      [.equal, .unequal, .lessOrEqual, .greaterOrEqual, .less, .greater, .contains]) :
      (Peg.node rule body).YieldsOne IsOperator := by
    intro input trees rest found
    obtain ⟨reading, -, same⟩ := Option.map_eq_some_iff.1 found
    cases same
    exact ⟨_, rfl, known⟩
  have leaf : (Peg.leaf .contains (word "contains".toList)).YieldsOne IsOperator :=
    (yields_leaf _ _).imp fun _ ⟨_, _, same⟩ => same ▸ show Rule.contains ∈ _ by decide
  exact .orElse (node (by decide)) <| .orElse (node (by decide)) <| .orElse (node (by decide)) <|
    .orElse (node (by decide)) <| .orElse (node (by decide)) <| .orElse (node (by decide)) leaf

theorem yields_connective : (and.orElse or).YieldsOne IsConnective :=
  .orElse ((yields_leaf _ _).imp fun _ => .inl) ((yields_leaf _ _).imp fun _ => .inr)

theorem yields_endOfTag : endOfTag.YieldsOne (IsLeaf .endOfTag) :=
  yields_leaf _ _

theorem yields_ident : ident.YieldsOne (IsLeaf .ident) :=
  yields_leaf _ _

theorem yields_comparison : comparison.YieldsOne IsComparison := by
  have behind : (comparisonOperator.andThen primary).optional.Yields fun trees =>
      trees = [] ∨ ∃ operator right, trees = [operator, right] ∧ operator.IsOperator ∧
        right.IsPrimary := by
    refine .optional (.andThen yields_operator yields_primary ?_) (.inl rfl)
    rintro _ _ ⟨operator, rfl, isOperator⟩ ⟨right, rfl, isPrimary⟩
    exact .inr ⟨operator, right, rfl, isOperator, isPrimary⟩
  refine .node (.andThen yields_primary behind ?_)
  rintro _ _ ⟨left, rfl, leftPrimary⟩ (rfl | ⟨operator, right, rfl, isOperator, rightPrimary⟩) start
  · exact .single leftPrimary
  · exact .pair leftPrimary isOperator rightPrimary

/-- Comparisons go on with every connective that follows one. -/
theorem areComparisons_of_groups {groups : List (List Tree)}
    (joins : ∀ group ∈ groups, ∃ connective comparison, group = [connective, comparison] ∧
      connective.IsConnective ∧ comparison.IsComparison) {first : Tree}
    (comparison : first.IsComparison) : AreComparisons (first :: groups.flatten) := by
  induction groups generalizing first with
  | nil => exact .single comparison
  | cons group groups ih =>
      obtain ⟨⟨connective, next, rfl, connects, isComparison⟩, later⟩ :=
        List.forall_mem_cons.1 joins
      exact .join comparison connects (ih later isComparison)

theorem yields_condition : condition.YieldsOne IsCondition := by
  have joined : ((and.orElse or).andThen comparison).Yields fun group =>
      ∃ connective comparison, group = [connective, comparison] ∧ connective.IsConnective ∧
        comparison.IsComparison := by
    refine .andThen yields_connective yields_comparison ?_
    rintro _ _ ⟨connective, rfl, connects⟩ ⟨comparison, rfl, isComparison⟩
    exact ⟨connective, comparison, rfl, connects, isComparison⟩
  refine .node (.andThen yields_comparison joined.many ?_)
  rintro _ _ ⟨first, rfl, isComparison⟩ ⟨groups, rfl, joins⟩ start
  exact .mk (areComparisons_of_groups joins isComparison)

theorem yields_filters : filters.Yields fun trees => ∀ tree ∈ trees, tree.IsFilter := by
  have argument : ((char ':').andThen primary).optional.Yields fun trees =>
      trees = [] ∨ ∃ tree, trees = [tree] ∧ tree.IsPrimary :=
    .optional ((Yields.behind_char ':' yields_primary).imp fun _ => .inr) (.inl rfl)
  have filter : Grammar.filter.YieldsOne IsFilter := by
    refine .node (.andThen yields_ident argument ?_)
    rintro _ _ ⟨name, rfl, isIdent⟩ (rfl | ⟨argument, rfl, isPrimary⟩) start
    · exact .plain isIdent
    · exact .given isIdent isPrimary
  refine (Yields.behind_char '|' filter).many.imp ?_
  rintro _ ⟨groups, rfl, all⟩ tree member
  obtain ⟨group, inGroups, inGroup⟩ := List.mem_flatten.1 member
  obtain ⟨filter, rfl, isFilter⟩ := all group inGroups
  exact List.mem_singleton.1 inGroup ▸ isFilter

theorem yields_output : (comparison.andThen (filters.andThen endOfTag)).Yields AreOutput := by
  have behind : (filters.andThen endOfTag).Yields fun trees =>
      ∃ filters stop, trees = filters ++ [stop] ∧ (∀ filter ∈ filters, IsFilter filter) ∧
        stop.IsLeaf .endOfTag := by
    refine .andThen yields_filters yields_endOfTag ?_
    rintro filters _ areFilters ⟨stop, rfl, ends⟩
    exact ⟨filters, stop, rfl, areFilters, ends⟩
  refine .andThen yields_comparison behind ?_
  rintro _ _ ⟨comparison, rfl, isComparison⟩ ⟨filters, stop, rfl, areFilters, ends⟩
  exact .mk isComparison areFilters ends

/-- Values go on with every comma and every connective that follows one. -/
theorem areValues_of_groups {groups : List (List Tree)}
    (joins : ∀ group ∈ groups, ∃ value, value.IsPrimary ∧
      (group = [value] ∨ ∃ connective, group = [connective, value] ∧ connective.IsLeaf .or))
    {first stop : Tree} (primary : first.IsPrimary) (ends : stop.IsLeaf .endOfTag) :
    AreValues (first :: (groups.flatten ++ [stop])) := by
  induction groups generalizing first with
  | nil => exact .last primary ends
  | cons group groups ih =>
      obtain ⟨⟨value, isPrimary, separated⟩, later⟩ := List.forall_mem_cons.1 joins
      rcases separated with rfl | ⟨connective, rfl, connects⟩
      · exact .comma primary (ih later isPrimary)
      · exact .or primary connects (ih later isPrimary)

theorem yields_values :
    (primary.andThen (((or.orElse (char ',')).andThen primary).many.andThen endOfTag)).Yields
      AreValues := by
  have separator : (or.orElse (char ',')).Yields fun trees =>
      trees = [] ∨ ∃ tree, trees = [tree] ∧ tree.IsLeaf .or :=
    .orElse (Yields.imp (yields_leaf _ _) fun _ => .inr) ((yields_char ',').imp fun _ => .inl)
  have joined : ((or.orElse (char ',')).andThen primary).Yields fun group => ∃ value,
      value.IsPrimary ∧
        (group = [value] ∨ ∃ connective, group = [connective, value] ∧ connective.IsLeaf .or) := by
    refine .andThen separator yields_primary ?_
    rintro _ _ (rfl | ⟨connective, rfl, connects⟩) ⟨value, rfl, isPrimary⟩
    · exact ⟨value, isPrimary, .inl rfl⟩
    · exact ⟨value, isPrimary, .inr ⟨connective, rfl, connects⟩⟩
  have behind : (((or.orElse (char ',')).andThen primary).many.andThen endOfTag).Yields fun trees =>
      ∀ first : Tree, first.IsPrimary → AreValues (first :: trees) := by
    refine .andThen joined.many yields_endOfTag ?_
    rintro _ _ ⟨groups, rfl, joins⟩ ⟨stop, rfl, ends⟩ first isPrimary
    exact areValues_of_groups joins isPrimary ends
  refine .andThen yields_primary behind ?_
  rintro _ _ ⟨first, rfl, isPrimary⟩ values
  exact values first isPrimary

/-- A part and the end of the tag behind it. -/
theorem yields_pair {body : Peg} {part whole : Tree → Prop} {rule : Rule}
    (yields : body.YieldsOne part)
    (made : ∀ start tree stop, part tree → stop.IsLeaf .endOfTag →
      whole ⟨rule, [], start, [tree, stop]⟩) :
    (Peg.node rule (body.andThen endOfTag)).YieldsOne whole := by
  refine .node (.andThen yields yields_endOfTag ?_)
  rintro _ _ ⟨tree, rfl, isPart⟩ ⟨stop, rfl, ends⟩ start
  exact made start tree stop isPart ends

/-- The rules that read what stands in a tag. -/
def tagRules : List (Rule × Peg) :=
  [(.outputTag, outputTag), (.conditionTag, conditionTag), (.caseTag, caseTag),
    (.whenTag, whenTag), (.captureTag, captureTag), (.assignTag, assignTag)]

theorem yields_outputTag : outputTag.YieldsOne (IsTag .outputTag) :=
  .node (yields_output.imp fun _ output _ => .output output)

theorem yields_conditionTag : conditionTag.YieldsOne (IsTag .conditionTag) :=
  yields_pair yields_condition fun _ _ _ => .condition

theorem yields_caseTag : caseTag.YieldsOne (IsTag .caseTag) :=
  yields_pair yields_primary fun _ _ _ => .case

theorem yields_whenTag : whenTag.YieldsOne (IsTag .whenTag) :=
  .node (yields_values.imp fun _ values _ => .when values)

theorem yields_captureTag : captureTag.YieldsOne (IsTag .captureTag) :=
  yields_pair yields_ident fun _ _ _ => .capture

theorem yields_assignTag : assignTag.YieldsOne (IsTag .assignTag) := by
  refine .node (.andThen yields_ident (.behind_char '=' yields_output) ?_)
  rintro _ _ ⟨name, rfl, isIdent⟩ output start
  exact .assign isIdent output

/-- Whatever the rules of tags read has the parts that are expected of it. -/
theorem yields_tagRules : ∀ entry ∈ tagRules, entry.2.YieldsOne (IsTag entry.1) := by
  simp only [tagRules, List.forall_mem_cons]
  exact ⟨yields_outputTag, yields_conditionTag, yields_caseTag, yields_whenTag, yields_captureTag,
    yields_assignTag, nofun⟩

end Grammar

end Stencil
