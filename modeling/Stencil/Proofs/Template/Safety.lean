import Stencil.Proofs.Block.Foreseen
import Stencil.Proofs.Segment.Cursor
import Stencil.Proofs.Syntax.Stacks
import Stencil.Template

/-!
# Compiling any source

There is nothing in a source at which compiling stops without an answer.  It takes
slices of the source, expects trees to have certain parts, and takes operands and
connectives off stacks; all of these are there whenever they are asked for.
-/

namespace Stencil

open Checked (Fails)
open Grammar (Tree)

/-- A text without its first and its last byte. -/
def Text.unquote? (text : List Char) : Option (List Char) := do
  between? text 1 (← less? (width text) 1)

/-- Quotes have one byte each. -/
theorem Text.unquote?_quoted {quote : Char} (quotes : Grammar.isQuote quote)
    (content : List Char) : unquote? (quote :: (content ++ [quote])) = some content := by
  have single : width [quote] = 1 := by
    simp only [Grammar.isQuote, Bool.or_eq_true, beq_iff_eq] at quotes
    rcases quotes with rfl | rfl <;> rfl
  have inside := between?_width [quote] content [quote]
  have stop : less? (width (quote :: (content ++ [quote]))) 1 = some (1 + width content) := by
    have whole : width (quote :: (content ++ [quote])) = 1 + width content + 1 := by
      rw [← List.singleton_append, width_append, width_append, single]
      omega
    rw [whole, less?, if_pos (Nat.le_add_left 1 _), Nat.add_sub_cancel]
  rw [width_append, single] at inside
  rw [unquote?, stop, Option.bind_eq_bind, Option.bind_some]
  exact inside

/-- The text of a string is what stands between its quotes. -/
theorem Grammar.yields_string : string.YieldsOne fun tree => ∃ text start content,
    tree = ⟨.string, text, start, []⟩ ∧ Text.unquote? text = some content ∧
      ∀ stop, Expr.ofLiteral stop tree = .ok (.ofText content) := by
  intro input trees rest found
  obtain ⟨quote, content, quotes, -, -, rfl⟩ := read_string_eq_some_iff.1 found
  refine ⟨_, rfl, _, _, content, rfl, Text.unquote?_quoted quotes content, fun stop => ?_⟩
  simp [Expr.ofLiteral]

namespace Template

/-- Compiling a source answers, and nothing that it takes for granted is missing. -/
structure CompilesSafely (config : Config) (source : String) : Prop where
  /-- There is a template or an error, and the error is not that of a tree that no text has. -/
  answers :
    (∃ nodes, Node.compile config source.toList = .ok nodes ∧
      compile config source = .ok ⟨nodes, config⟩) ∨
    ∃ problem position, problem ≠ .strayTree ∧
      Node.compile config source.toList = .error ⟨problem, position⟩ ∧
      compile config source = .error (problem.toError source.toList position)
  /-- Whatever the rules of tags read has the parts that are expected of it. -/
  parts : ∀ entry ∈ Grammar.tagRules, entry.2.YieldsOne (Tree.IsTag entry.1)
  /-- Whatever stands in a tag, no stray tree is met when something is made of it. -/
  trees : ∀ (known : String → Bool) (inside : TagInside),
    Fails Foreseen (inside.output known) ∧ Fails Foreseen inside.condition ∧
      Fails Foreseen inside.subject ∧ Fails Foreseen inside.values ∧
      Fails Foreseen inside.captureName ∧ Fails Foreseen (inside.assignment known)
  /-- The operands and the connectives of a condition are used up by its expression. -/
  balanced : Grammar.condition.YieldsOne fun tree => ∃ start children,
    tree = ⟨.condition, [], start, children⟩ ∧ ∀ stop,
      Stacks.ofTrees stop children =
        (Expr.ofCondition stop tree).map fun expr => (expr, .empty)
  /-- The slices from which the segments are made stand between characters of the source. -/
  segments : ∀ steps > source.toList.length,
    Segment.scanAt? source.toList steps 0 = some (Segment.scan source.toList)
  /-- The slices from which the parts of a tag are made stand between its characters. -/
  tags : ∀ inner position, Tag.split? inner position = some (Tag.ofInside inner position)
  /-- The text of a string is the slice between its quotes. -/
  strings : Grammar.string.YieldsOne fun tree => ∃ text start content,
    tree = ⟨.string, text, start, []⟩ ∧ Text.unquote? text = some content ∧
      ∀ stop, Expr.ofLiteral stop tree = .ok (.ofText content)

/-- Compiling a source gives a template, or an error that reports a problem of the source. -/
theorem compile_cases_of_foreseen (config : Config) (source : String) :
    (∃ nodes, Node.compile config source.toList = .ok nodes ∧
      compile config source = .ok ⟨nodes, config⟩) ∨
    ∃ problem position, problem ≠ .strayTree ∧
      Node.compile config source.toList = .error ⟨problem, position⟩ ∧
      compile config source = .error (problem.toError source.toList position) := by
  cases compiled : Node.compile config source.toList with
  | ok nodes =>
      refine .inl ⟨nodes, rfl, ?_⟩
      rw [compile, compiled]
  | error failure =>
      obtain ⟨problem, position⟩ := failure
      have foreseen := Node.foreseen_compile config source.toList _ compiled
      refine .inr ⟨problem, position, foreseen, rfl, ?_⟩
      rw [compile, compiled]

/-- Every source is compiled safely, whatever filters and tags are registered. -/
theorem compilesSafely (config : Config) (source : String) : CompilesSafely config source where
  answers := compile_cases_of_foreseen config source
  parts := Grammar.yields_tagRules
  trees known _ := ⟨TagInside.foreseen_output known, TagInside.foreseen_condition,
    TagInside.foreseen_subject, TagInside.foreseen_values, TagInside.foreseen_captureName,
    TagInside.foreseen_assignment known⟩
  balanced := Stacks.yields_condition
  segments _ := Segment.scanAt?_zero
  tags := Tag.split?_eq
  strings := Grammar.yields_string

end Template

end Stencil
