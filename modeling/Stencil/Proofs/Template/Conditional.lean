import Mathlib
import Stencil.Proofs.Block.Nesting
import Stencil.Proofs.Piece.Arguments
import Stencil.Proofs.Piece.Spelling

/-!
# Conditionals by other conditionals

An `unless` is an `if` with its branches the other way round, and a chain of
`elsif` branches is a nest of conditionals with one condition each.  Both hold
for any branches that compile on their own: what a branch says does not depend
on the tags that may end it.
-/

namespace Stencil

/-- A text that is read as a condition in a tag, and does not close the tag. -/
structure IsConditionText (text : String) : Prop where
  accepted : ∃ condition, TagInside.condition ⟨Text.trim text.toList, 0⟩ = .ok condition
  free : ¬ Delimiter.block.closing <:+: text.toList

/-- A source that compiles on its own, and does not end in a brace that could open a tag. -/
structure IsBodySource (config : Config) (source : String) : Prop where
  compiles : ∃ template, Template.compile config source = .ok template
  unbraced : source.toList.getLast? ≠ some '{'

/-- A condition and what is rendered where it holds, as they stand in a source. -/
structure Guard where
  condition : String
  body : String

namespace Guard

/-- A guard behind a keyword. -/
def source (keyword : String) (guard : Guard) : String :=
  "\x7b% " ++ keyword ++ " " ++ guard.condition ++ " %\x7d" ++ guard.body

/-- A guard as the branch of a conditional. -/
structure Means (config : Config) (guard : Guard) (condition : Expr) (body : List Node) :
    Prop where
  condition : TagInside.condition ⟨Text.trim guard.condition.toList, 0⟩ = .ok condition
  free : ¬ Delimiter.block.closing <:+: guard.condition.toList
  body : Node.compile config guard.body.toList = .ok body
  unbraced : guard.body.toList.getLast? ≠ some '{'

/-- Guards as the branches of a conditional. -/
abbrev AllMean (config : Config) (guards : List Guard) (branches : List (Expr × List Node)) :
    Prop :=
  List.Forall₂ (fun guard branch => guard.Means config branch.1 branch.2) guards branches

theorem exists_means {config : Config} {guard : Guard} (text : IsConditionText guard.condition)
    (source : IsBodySource config guard.body) :
    ∃ condition body, guard.Means config condition body := by
  obtain ⟨condition, accepted⟩ := text.accepted
  obtain ⟨template, compiled⟩ := source.compiles
  exact ⟨condition, template.nodes, accepted, text.free,
    (Template.compile_eq_ok_iff.1 compiled).1, source.unbraced⟩

theorem exists_allMean {config : Config} {guards : List Guard}
    (accepted : ∀ guard ∈ guards,
      IsConditionText guard.condition ∧ IsBodySource config guard.body) :
    ∃ branches, AllMean config guards branches := by
  induction guards with
  | nil => exact ⟨[], .nil⟩
  | cons guard guards ih =>
      obtain ⟨⟨text, source⟩, later⟩ := List.forall_mem_cons.1 accepted
      obtain ⟨condition, body, means⟩ := exists_means text source
      obtain ⟨branches, known⟩ := ih later
      exact ⟨(condition, body) :: branches, .cons means known⟩

end Guard

/-- The source of a conditional with an `else`, and maybe with `elsif` branches before it. -/
def conditionalSource (negated : Bool) (first : Guard) (others : List Guard) (last : String) :
    String :=
  first.source (BlockKind.conditional negated).opener ++
    String.join (others.map (Guard.source "elsif")) ++ "{% else %}" ++ last ++
      "\x7b% " ++ (BlockKind.conditional negated).closer ++ " %\x7d"

/-- The source of conditionals with one condition each, all but the first in an `else`. -/
def nestSource (first : Guard) (others : List Guard) (last : String) : String :=
  match others with
  | [] => conditionalSource false first [] last
  | next :: others => conditionalSource false first [] (nestSource next others last)

/-! ## What guards say -/

namespace Guard

variable {config : Config} {guard : Guard} {condition : Expr} {body : List Node}

theorem Means.reads (means : guard.Means config condition body) (position : Nat) :
    TagInside.condition ⟨Text.trim guard.condition.toList, position⟩ = .ok condition := by
  rw [← Except.toOption_eq_some_iff, (TagInside.alike_condition position 0 _).toOption_eq,
    means.condition, Except.toOption_ok]

theorem Means.trim_ne_nil (means : guard.Means config condition body) :
    Text.trim guard.condition.toList ≠ [] := by
  intro empty
  have accepted := means.condition
  rw [empty] at accepted
  cases accepted

theorem Means.denotes_opening (means : guard.Means config condition body) (negated : Bool) :
    (Piece.looseTag (BlockKind.conditional negated).opener guard.condition.toList).Denotes config
      (.ifTag negated condition) := by
  have named := BlockKind.named_opener (.conditional negated)
  refine Piece.denotes_looseTag named means.trim_ne_nil means.free fun position => ?_
  exact Tag.Bears.mark?_eq (.ifTag rfl (means.reads position))

theorem Means.denotes_elsif (means : guard.Means config condition body) :
    (Piece.looseTag "elsif" guard.condition.toList).Denotes config (.elseIf condition) := by
  refine Piece.denotes_looseTag (by decide) means.trim_ne_nil means.free fun position => ?_
  exact Tag.Bears.mark?_eq (.elseIf (.inr rfl) (means.reads position))

end Guard

/-! ## What a chain of guards compiles to -/

namespace Conditional

/-- What stands behind the body of the first guard. -/
def tailSource (negated : Bool) (last : String) : List Guard → List Char
  | [] => Mark.elseTag.piece.source ++
      (last.toList ++ ((Mark.closing (.conditional negated)).piece.source ++ []))
  | guard :: guards => (Piece.looseTag "elsif" guard.condition.toList).source ++
      (guard.body.toList ++ tailSource negated last guards)

theorem toList_conditionalSource (negated : Bool) (first : Guard) (others : List Guard)
    (last : String) :
    (conditionalSource negated first others last).toList =
      (Piece.looseTag (BlockKind.conditional negated).opener first.condition.toList).source ++
        (first.body.toList ++ tailSource negated last others) := by
  have tail : (String.join (others.map (Guard.source "elsif")) ++ "{% else %}" ++ last ++
      "\x7b% " ++ (BlockKind.conditional negated).closer ++ " %\x7d").toList =
        tailSource negated last others := by
    induction others with
    | nil =>
        simp [tailSource, Mark.piece, Piece.tag, Piece.source, Piece.enclose, Delimiter.pad,
          Tag.printInside, Delimiter.opening, Delimiter.closing]
    | cons guard guards ih =>
        rw [tailSource, ← ih]
        simp [Guard.source, Piece.looseTag, Piece.source, Piece.enclose, Delimiter.pad,
          Delimiter.opening, Delimiter.closing]
  rw [← tail]
  simp [conditionalSource, Guard.source, Piece.looseTag, Piece.source, Piece.enclose,
    Delimiter.pad, Delimiter.opening, Delimiter.closing]

variable {config : Config} {guards : List Guard} {branches : List (Expr × List Node)}
  {last : String} {lastBody : List Node} {negated : Bool}

/-- The branches of a conditional, the last one without a condition. -/
def toBranches (branches : List (Expr × List Node)) (lastBody : List Node) : List (Branch Node) :=
  branches.map (fun branch => ⟨some branch.1, branch.2⟩) ++ [⟨none, lastBody⟩]

/-- Guards and an `else` behind a body continue the block in which the body stands. -/
theorem exists_spelled_tail
    (means : Guard.AllMean config guards branches)
    (compiled : Node.compile config last.toList = .ok lastBody)
    (unbraced : last.toList.getLast? ≠ some '{') (single : negated → guards = [])
    {source : List Char} {marks : List Mark} (spelled : Mark.Spelled config source marks)
    (sourceUnbraced : source.getLast? ≠ some '{') :
    ∃ tail, Mark.Spelled config (source ++ tailSource negated last guards) (marks ++ tail) ∧
      ∀ (outline : Outline) (before : List (Branch Node)) (condition : Expr) (body : List Node),
        (outline.inside (.conditional negated before (some condition)) body).Leads tail
          (outline.push (.conditional
            (before ++ ⟨some condition, body⟩ :: toBranches branches lastBody))) := by
  induction means generalizing source marks with
  | nil =>
      obtain ⟨lastMarks, lastSpelled, built⟩ := Node.compile_eq_ok_iff_spelled.1 compiled
      have closed := lastSpelled.between
        (@Mark.Printable.denotes config (.closing (.conditional negated)) trivial)
        (by simp [Mark.piece, Piece.tag, Piece.isText]) .nil unbraced
      have whole := spelled.between (@Mark.Printable.denotes config .elseTag trivial)
        (by simp [Mark.piece, Piece.tag, Piece.isText]) closed sourceUnbraced
      refine ⟨_, whole, fun outline before condition body => ?_⟩
      refine .cons (outline.add_inside_branch rfl rfl) ?_
      exact (Outline.leads_inside_of_build built outline _).concat
        (outline.add_inside_close rfl (by simp [Frame.turn?, Frame.turnConditional?,
          Frame.close?, toBranches]))
  | @cons guard branch guards branches here later ih =>
      have unnegated : negated = false := by
        cases negated with
        | false => rfl
        | true => cases single rfl
      obtain ⟨bodyMarks, bodySpelled, built⟩ := Node.compile_eq_ok_iff_spelled.1 here.body
      obtain ⟨tail, tailSpelled, leads⟩ := ih (by simp [unnegated]) bodySpelled here.unbraced
      have whole := spelled.between here.denotes_elsif (by simp [Piece.looseTag, Piece.isText])
        tailSpelled sourceUnbraced
      refine ⟨_, whole, fun outline before condition body => ?_⟩
      have branched : (outline.inside (.conditional negated before (some condition)) body).add
          (.elseIf branch.1) = some (outline.inside (.conditional negated
            (before ++ [⟨some condition, body⟩]) (some branch.1)) []) :=
        outline.add_inside_branch rfl (by simp [Frame.turn?, Frame.turnConditional?, unnegated])
      have rest := leads outline (before ++ [⟨some condition, body⟩]) branch.1 branch.2
      rw [List.append_assoc] at rest
      exact .cons branched ((Outline.leads_inside_of_build built outline _).append rest)

/-- A conditional compiles to its branches when the conditions and bodies do. -/
theorem compile_conditionalSource (negated : Bool) {first : Guard} {condition : Expr}
    {body : List Node} (firstMeans : first.Means config condition body)
    (means : Guard.AllMean config guards branches)
    (compiled : Node.compile config last.toList = .ok lastBody)
    (unbraced : last.toList.getLast? ≠ some '{') (single : negated → guards = []) :
    Node.compile config (conditionalSource negated first guards last).toList =
      .ok [.conditional (⟨some (if negated then .not condition else condition), body⟩ ::
        toBranches branches lastBody)] := by
  obtain ⟨marks, spelled, built⟩ := Node.compile_eq_ok_iff_spelled.1 firstMeans.body
  obtain ⟨tail, tailSpelled, leads⟩ := exists_spelled_tail means compiled unbraced single spelled
    firstMeans.unbraced
  have whole := Mark.Spelled.cons (firstMeans.denotes_opening negated)
    (by simp [Piece.looseTag, Piece.isText]) tailSpelled
  rw [toList_conditionalSource, Node.compile_eq_ok_iff_spelled]
  refine ⟨_, whole, Outline.build_of_leads ?_⟩
  exact .cons rfl ((Outline.leads_inside_of_build built .empty _).append
    (leads .empty [] _ body))

end Conditional

/-! ## How the conditionals are rendered -/

namespace Node

variable {config : Config}

theorem renderBody_singleton (node : Node) (rendering : Rendering) :
    renderBody config [node] rendering = render config node rendering := by
  rw [renderBody]
  cases render config node rendering <;> rfl

/-- Two branches with a negated condition are the same two the other way round. -/
theorem render_conditional_not (condition : Expr) (first second : List Node)
    (rendering : Rendering) :
    render config (.conditional [⟨some (.not condition), first⟩, ⟨none, second⟩]) rendering =
      render config (.conditional [⟨some condition, second⟩, ⟨none, first⟩]) rendering := by
  have negates : ((Expr.not condition).eval rendering.scope).isTruthy =
      !(condition.eval rendering.scope).isTruthy := rfl
  simp only [render, renderBranches, Branch.applies, negates]
  cases (condition.eval rendering.scope).isTruthy <;> rfl

/-- Conditionals with one branch and an `else` each, of which all but the first stand in one. -/
def nest (first : Branch Node) (others : List (Branch Node)) (last : List Node) : Node :=
  match others with
  | [] => .conditional [first, ⟨none, last⟩]
  | next :: others => .conditional [first, ⟨none, [nest next others last]⟩]

/-- The branches behind the first one can be made a conditional of their own. -/
theorem render_nest (first : Branch Node) (others : List (Branch Node)) (last : List Node)
    (rendering : Rendering) :
    render config (nest first others last) rendering =
      render config (.conditional (first :: (others ++ [⟨none, last⟩]))) rendering := by
  induction others generalizing first with
  | nil => rfl
  | cons next others ih =>
      have inner : renderBranches config [⟨none, [nest next others last]⟩] rendering =
          renderBranches config (next :: (others ++ [⟨none, last⟩])) rendering :=
        calc
          renderBranches config [⟨none, [nest next others last]⟩] rendering
          _ = renderBody config [nest next others last] rendering := rfl
          _ = render config (nest next others last) rendering := renderBody_singleton _ _
          _ = renderBranches config (next :: (others ++ [⟨none, last⟩])) rendering := by
              rw [ih next, render]
      rw [nest, render, render, renderBranches, inner]
      rfl

end Node

namespace Conditional

variable {config : Config}

/-- A nest of conditionals does not end in a brace that could open a tag. -/
theorem getLast?_conditionalSource (negated : Bool) (first : Guard) (others : List Guard)
    (last : String) :
    (conditionalSource negated first others last).toList.getLast? = some '\x7d' := by
  rw [conditionalSource, String.toList_append, List.getLast?_append]
  rfl

theorem compile_nestSource {first : Guard} {condition : Expr} {body : List Node}
    {guards : List Guard} {branches : List (Expr × List Node)} {last : String}
    {lastBody : List Node} (firstMeans : first.Means config condition body)
    (means : Guard.AllMean config guards branches)
    (compiled : Node.compile config last.toList = .ok lastBody)
    (unbraced : last.toList.getLast? ≠ some '{') :
    Node.compile config (nestSource first guards last).toList =
      .ok [Node.nest ⟨some condition, body⟩
        (branches.map fun branch => ⟨some branch.1, branch.2⟩) lastBody] := by
  induction means generalizing first condition body with
  | nil => exact compile_conditionalSource false firstMeans .nil compiled unbraced (by simp)
  | @cons next branch guards branches here later ih =>
      have inner := ih here
      have ends : (nestSource next guards last).toList.getLast? ≠ some '{' := by
        cases guards <;> rw [nestSource, getLast?_conditionalSource] <;> decide
      exact compile_conditionalSource false firstMeans .nil inner ends (by simp)

end Conditional

namespace Template

/-- Templates that write the same text and set the same variables wherever they stand. -/
def Agrees (first second : Template) : Prop :=
  (∀ data now, first.run data now = second.run data now) ∧
    ∀ rendering, Node.renderBody first.config first.nodes rendering =
      Node.renderBody second.config second.nodes rendering

theorem agrees_of_render {config : Config} {first second : Node}
    (same : ∀ rendering, Node.render config first rendering = Node.render config second rendering) :
    Agrees ⟨[first], config⟩ ⟨[second], config⟩ := by
  have bodies (rendering : Rendering) : Node.renderBody config [first] rendering =
      Node.renderBody config [second] rendering := by
    rw [Node.renderBody_singleton, Node.renderBody_singleton, same rendering]
  exact ⟨fun data now => bodies ⟨.start data now, ""⟩, bodies⟩

/--
Conditionals by other conditionals, for all conditions that can be read and all
bodies that compile on their own: an `unless` with an `else` is an `if` with the
bodies the other way round, and `elsif` branches are a nest of conditionals.
Either side compiles, and both agree.
-/
theorem agrees_conditionalSource (config : Config) :
    (∀ condition first second, IsConditionText condition → IsBodySource config first →
      IsBodySource config second →
        ∃ negated plain,
          compile config (conditionalSource true ⟨condition, first⟩ [] second) = .ok negated ∧
          compile config (conditionalSource false ⟨condition, second⟩ [] first) = .ok plain ∧
          negated.Agrees plain) ∧
    ∀ (first : Guard) (others : List Guard) (last : String),
      (∀ guard ∈ first :: others,
        IsConditionText guard.condition ∧ IsBodySource config guard.body) →
      IsBodySource config last →
        ∃ chain nested,
          compile config (conditionalSource false first others last) = .ok chain ∧
          compile config (nestSource first others last) = .ok nested ∧ chain.Agrees nested := by
  constructor
  · intro condition first second text firstSource secondSource
    obtain ⟨expr, body, means⟩ := @Guard.exists_means config ⟨condition, first⟩ text firstSource
    obtain ⟨_, other, swapped⟩ := @Guard.exists_means config ⟨condition, second⟩ text secondSource
    obtain rfl : _ = expr := Except.ok.inj (swapped.condition.symm.trans means.condition)
    have negated := Conditional.compile_conditionalSource true means .nil
      swapped.body swapped.unbraced (by simp)
    have plain := Conditional.compile_conditionalSource false swapped .nil
      means.body means.unbraced (by simp)
    exact ⟨⟨_, config⟩, ⟨_, config⟩, compile_eq_ok_iff.2 ⟨negated, rfl⟩,
      compile_eq_ok_iff.2 ⟨plain, rfl⟩,
      agrees_of_render (Node.render_conditional_not _ body other)⟩
  · intro first others last accepted lastSource
    obtain ⟨⟨text, source⟩, later⟩ := List.forall_mem_cons.1 accepted
    obtain ⟨condition, body, firstMeans⟩ := Guard.exists_means text source
    obtain ⟨branches, means⟩ := Guard.exists_allMean later
    obtain ⟨template, compiled⟩ := lastSource.compiles
    have lastCompiled := (compile_eq_ok_iff.1 compiled).1
    have chain := Conditional.compile_conditionalSource false firstMeans means
      lastCompiled lastSource.unbraced (by simp)
    have nested := Conditional.compile_nestSource firstMeans means lastCompiled
      lastSource.unbraced
    exact ⟨⟨_, config⟩, ⟨_, config⟩, compile_eq_ok_iff.2 ⟨chain, rfl⟩,
      compile_eq_ok_iff.2 ⟨nested, rfl⟩,
      agrees_of_render fun rendering => (Node.render_nest _ _ _ rendering).symm⟩

/-- A body with branches of its own, and a condition with blanks around it. -/
theorem agrees_conditionalSource_nested :
    let condition := "a < 'x' and b"
    let first : Guard := ⟨condition, "{% unless a %}1{% else %}2{% endunless %}"⟩
    let second : Guard := ⟨"  b", "{% assign a = b %}"⟩
    (∃ negated plain,
      compile .empty (conditionalSource true ⟨condition, first.body⟩ [] second.body) =
        .ok negated ∧
      compile .empty (conditionalSource false ⟨condition, second.body⟩ [] first.body) =
        .ok plain ∧
      negated.Agrees plain) ∧
    ∃ chain nested,
      compile .empty (conditionalSource false first [second] "c") = .ok chain ∧
      compile .empty (nestSource first [second] "c") = .ok nested ∧ chain.Agrees nested := by
  intro condition first second
  have firstText : IsConditionText first.condition := ⟨⟨_, by cbv⟩, by decide +kernel⟩
  have secondText : IsConditionText second.condition := ⟨⟨_, by cbv⟩, by decide +kernel⟩
  have firstSource : IsBodySource .empty first.body := ⟨⟨_, by cbv⟩, by decide⟩
  have secondSource : IsBodySource .empty second.body := ⟨⟨_, by cbv⟩, by decide⟩
  have lastSource : IsBodySource .empty "c" := ⟨⟨_, by cbv⟩, by decide⟩
  obtain ⟨unlesses, chains⟩ := agrees_conditionalSource .empty
  have accepted : ∀ guard ∈ [first, second],
      IsConditionText guard.condition ∧ IsBodySource .empty guard.body :=
    List.forall_mem_cons.2 ⟨⟨firstText, firstSource⟩,
      List.forall_mem_singleton.2 ⟨secondText, secondSource⟩⟩
  exact ⟨unlesses condition first.body second.body firstText firstSource secondSource,
    chains first [second] "c" accepted lastSource⟩

end Template

end Stencil
