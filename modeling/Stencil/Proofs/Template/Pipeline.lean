import Mathlib
import Stencil.Proofs.Node.Pipeline
import Stencil.Proofs.Piece.Arguments
import Stencil.Proofs.Piece.Spelling

/-!
# Pipelines through an assign

A pipeline of filters may be cut in two by an assign: what is assigned is the
value itself, and it goes on through the filters behind the name.
-/

namespace Stencil

open Grammar (isName literalWords)

namespace Stage

variable {known : String → Bool} {stages : List Stage}

theorem not_closing_infix_pipelineSource {delimiter : Delimiter} {text : List Char}
    (free : ¬ delimiter.closing <:+: text)
    (stagesFree : ∀ stage ∈ stages, ¬ delimiter.closing <:+: stage.text) :
    ¬ delimiter.closing <:+: pipelineSource text stages :=
  @Delimiter.not_closing_infix_append_flatMap delimiter Stage text [' ', '|', ' '] Stage.text
    stages free stagesFree (by cases delimiter <;> rfl) (by simp)

end Stage

namespace Template

/-- The source of an assign, and of an output behind it. -/
def assignSource (assigned written : String) : String :=
  "\x7b% assign " ++ assigned ++ " %\x7d\x7b\x7b " ++ written ++ " \x7d\x7d"

def outputSource (written : String) : String :=
  "\x7b\x7b " ++ written ++ " \x7d\x7d"

section

variable {config : Config} {assigned written name : String} {value other : Output}

theorem compile_outputSource (free : ¬ Delimiter.output.closing <:+: written.toList)
    (reads : TagInside.output config.hasFilter ⟨Text.trim written.toList, 0⟩ = .ok value) :
    compile config (outputSource written) = .ok ⟨[.output value], config⟩ := by
  have denotes := Piece.denotes_looseOutput free reads
  have spelled := Mark.Spelled.cons denotes (by simp [Piece.looseOutput, Piece.isText]) .nil
  have source : (outputSource written).toList =
      (Piece.looseOutput written.toList).source ++ [] := by
    simp [outputSource, Piece.looseOutput, Piece.source, Piece.enclose, Delimiter.pad,
      Delimiter.opening, Delimiter.closing]
  exact compile_of_spelled source spelled rfl

theorem compile_assignSource (assignedFree : ¬ Delimiter.block.closing <:+: assigned.toList)
    (assigns : ∀ position, TagInside.assignment config.hasFilter
      ⟨Text.trim assigned.toList, position⟩ = .ok (name, value))
    (writtenFree : ¬ Delimiter.output.closing <:+: written.toList)
    (reads : TagInside.output config.hasFilter ⟨Text.trim written.toList, 0⟩ = .ok other) :
    compile config (assignSource assigned written) =
      .ok ⟨[.assign name value, .output other], config⟩ := by
  have nonempty : Text.trim assigned.toList ≠ [] := by
    intro empty
    have accepted := assigns 0
    rw [empty] at accepted
    cases accepted
  have denotes : (Piece.looseTag "assign" assigned.toList).Denotes config (.assign name value) := by
    refine Piece.denotes_looseTag (by decide) nonempty assignedFree fun position => ?_
    exact Tag.Bears.mark?_eq (.assign rfl (assigns position))
  have behind := Mark.Spelled.cons (Piece.denotes_looseOutput writtenFree reads)
    (by simp [Piece.looseOutput, Piece.isText]) .nil
  have spelled := Mark.Spelled.cons denotes (by simp [Piece.looseTag, Piece.isText]) behind
  have source : (assignSource assigned written).toList =
      (Piece.looseTag "assign" assigned.toList).source ++
        ((Piece.looseOutput written.toList).source ++ []) := by
    simp [assignSource, Piece.looseTag, Piece.looseOutput, Piece.source, Piece.enclose,
      Delimiter.pad, Delimiter.opening, Delimiter.closing]
  exact compile_of_spelled source spelled rfl

end

/--
Pipelines compose through an assign.  The output of a name that a value with
some filters has been assigned to goes on through filters that do not ask for
the name: it writes what an output of the value with all of the filters writes,
and the name is left with the value itself.  A path without a value goes
through no filter: an output writes its placeholder, and an assign binds nil.
All this is what sources say, for all expressions and filters that can be read,
where the name can be read back.
-/
theorem compile_assign_pipeline (config : Config) :
    (∀ expr filters more name value (rendering : Rendering),
      Expr.eval? rendering.scope expr = some value →
      name ∉ List.flatMap FilterCall.roots more →
        Node.renderBody config
            [.assign name ⟨expr, filters⟩, .output ⟨.path [name], more⟩] rendering = do
          let bound ← filters.foldlM (FilterCall.apply config rendering.scope) value
          let written ← Node.renderBody config [.output ⟨expr, filters ++ more⟩] rendering
          return written.set name bound) ∧
    (∀ expr (rendering : Rendering), Expr.eval? rendering.scope expr = none →
      ∃ names, expr = .path names ∧ ∀ filters,
        Node.render config (.output ⟨expr, filters⟩) rendering =
            .ok (rendering.write (Output.placeholder names)) ∧
          ∀ name, Node.render config (.assign name ⟨expr, filters⟩) rendering =
            .ok (rendering.set name .nil)) ∧
    ∀ text expr first second, ∀ name assigned written direct : String,
      Grammar.comparison.Accepts Expr.ofComparison text expr →
      (∀ stage ∈ first ++ second,
        Grammar.filter.Accepts (FilterCall.ofTree config.hasFilter)
          (Stage.text stage) stage.call) →
      (∀ delimiter : Delimiter, ¬ delimiter.closing <:+: text ∧
        ∀ stage ∈ first, ¬ delimiter.closing <:+: stage.text) →
      (∀ stage ∈ second, ¬ Delimiter.output.closing <:+: stage.text) →
      isName name.toList → name.toList ∉ literalWords →
      Text.trim assigned.toList = name.toList ++ ([' ', '=', ' '] ++ Stage.pipelineSource text first) →
      Text.trim written.toList = Stage.pipelineSource name.toList second →
      Text.trim direct.toList = Stage.pipelineSource text (first ++ second) →
        compile config (assignSource assigned written) =
          .ok ⟨[.assign name ⟨expr, first.map Stage.call⟩,
            .output ⟨.path [name], second.map Stage.call⟩], config⟩ ∧
        compile config (outputSource direct) =
          .ok ⟨[.output ⟨expr, first.map Stage.call ++ second.map Stage.call⟩], config⟩ := by
  refine ⟨fun expr filters more name value rendering => Node.renderBody_assign_output,
    fun expr rendering => Node.render_of_unknown, ?_⟩
  intro text expr first second name assigned written direct accepted stagesAccepted free
    secondFree named other assignedTrim writtenTrim directTrim
  obtain ⟨firstAccepted, secondAccepted⟩ := List.forall_mem_append.1 stagesAccepted
  have nameAccepted := Expr.accepts_of_operand (Expr.accepts_name named other)
  constructor
  · obtain ⟨trees, found, means⟩ := Stage.exists_read_pipelineSource accepted firstAccepted
    have nameFree : ∀ delimiter : Delimiter, ¬ delimiter.closing <:+: name.toList :=
      fun delimiter => (holds_name named).free
    refine compile_assignSource (Delimiter.not_closing_infix_of_trim ?_) (fun position => ?_)
      (Delimiter.not_closing_infix_of_trim ?_) ?_
    · rw [assignedTrim]
      refine Delimiter.not_closing_infix_append (nameFree .block) ?_ rfl (by simp)
      exact Stage.not_closing_infix_pipelineSource (free .block).1 (free .block).2
    · rw [assignedTrim]
      exact TagInside.assignment_of_read named found means position
    · rw [writtenTrim]
      exact Stage.not_closing_infix_pipelineSource (nameFree .output) secondFree
    · rw [writtenTrim]
      exact Stage.output_pipelineSource nameAccepted secondAccepted 0
  · refine compile_outputSource (Delimiter.not_closing_infix_of_trim ?_) ?_
    · rw [directTrim]
      exact Stage.not_closing_infix_pipelineSource (free .output).1
        (List.forall_mem_append.2 ⟨(free .output).2, secondFree⟩)
    · rw [directTrim, ← List.map_append]
      exact Stage.output_pipelineSource accepted stagesAccepted 0

/-- A path through a registered filter, once before it is bound and twice behind it. -/
theorem compile_assign_pipeline_keep :
    let keep : Filter := fun _ value _ => .ok value
    let config : Config := { filters := [("keep", keep)], tags := [], unreserved := by decide }
    let bound : Output := ⟨.path ["a", "b"], [⟨"keep", none⟩]⟩
    let more : List FilterCall := [⟨"keep", some (.path ["c"])⟩]
    (∀ rendering : Rendering, rendering.scope.lookup? ["a", "b"] = some (.bool true) →
      Node.renderBody config [.assign "t" bound, .output ⟨.path ["t"], more⟩] rendering = do
        let value ← bound.filters.foldlM (FilterCall.apply config rendering.scope) (.bool true)
        let written ← Node.renderBody config
          [.output ⟨bound.expr, bound.filters ++ more⟩] rendering
        return written.set "t" value) ∧
      (∀ rendering : Rendering, rendering.scope.lookup? ["a", "b"] = none →
        Node.render config (.output bound) rendering =
            .ok (rendering.write (Output.placeholder ["a", "b"])) ∧
          Node.render config (.assign "t" bound) rendering = .ok (rendering.set "t" .nil)) ∧
      compile config (assignSource " t = a.b | keep" "t | keep: c ") =
        .ok ⟨[.assign "t" bound, .output ⟨.path ["t"], more⟩], config⟩ ∧
      compile config (outputSource "a.b | keep | keep: c") =
        .ok ⟨[.output ⟨bound.expr, bound.filters ++ more⟩], config⟩ := by
  intro keep config bound more
  obtain ⟨known, unknown, compiled⟩ := compile_assign_pipeline config
  refine ⟨fun rendering found => known _ _ _ _ _ rendering found (by decide),
    fun rendering missing => ?_, ?_⟩
  · obtain ⟨names, same, written⟩ := unknown bound.expr rendering missing
    obtain rfl : ["a", "b"] = names := by simpa [bound] using same
    exact ⟨(written bound.filters).1, (written bound.filters).2 "t"⟩
  · have accepted : Grammar.comparison.Accepts Expr.ofComparison "a.b".toList bound.expr :=
      ⟨_, ⟨_, rfl, fun _ => by cbv⟩, rfl⟩
    have first : Grammar.filter.Accepts (FilterCall.ofTree config.hasFilter) "keep".toList
        ⟨"keep", none⟩ := ⟨_, ⟨_, rfl, fun _ => rfl⟩, rfl⟩
    have second : Grammar.filter.Accepts (FilterCall.ofTree config.hasFilter) "keep: c".toList
        ⟨"keep", some (.path ["c"])⟩ := ⟨_, ⟨_, rfl, fun _ => by cbv⟩, rfl⟩
    exact compiled _ _ [⟨_, _⟩] [⟨_, _⟩] "t" _ _ _ accepted
      (List.forall_mem_cons.2 ⟨first, List.forall_mem_singleton.2 second⟩)
      (fun delimiter => by cases delimiter <;> decide) (by decide) (by decide) (by decide)
      (by decide +kernel) (by decide +kernel) (by decide +kernel)

end Template

end Stencil
