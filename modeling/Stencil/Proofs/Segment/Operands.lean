import Stencil.Proofs.Block.Form
import Stencil.Proofs.Block.Opened
import Stencil.Proofs.Syntax.Numeral

/-!
# Numerals of a segment

The numerals among the operands of a segment, and what the segment says when
another numeral is in the place of one of them.
-/

namespace Stencil

open Grammar (Exchange Peg Sealed)

/-- The operands of a mark, from left to right. -/
def Mark.operands : Mark → List Expr
  | .output value | .assign _ value => value.operands
  | .ifTag _ condition | .elseIf condition => condition.operands
  | .caseTag subject => subject.operands
  | .whenTag values => values.flatMap Expr.operands
  | .text _ | .custom _ _ | .captureTag _ | .elseTag | .closing _ => []

/-- A mark that varies with one of its operands, and keeps its form. -/
structure Mark.Varies (again : Checked Value) (old : Mark) (new : Checked Mark) : Prop where
  operands : Stencil.Varies Mark.operands again old new
  sameForm : ∀ other, new = .ok other → old.SameForm other

/-- What a mark is made of varies, and the mark around it does. -/
theorem Mark.varies_of_map {α : Type} {operands : α → List Expr} {read again : Checked α}
    {value : Checked Value} {mark : Mark} (wrap : α → Mark)
    (kept : ∀ inner, (wrap inner).operands = operands inner)
    (forms : ∀ inner other, (wrap inner).SameForm (wrap other))
    (varies : ∀ inner, read = .ok inner → Stencil.Varies operands value inner again)
    (reads : read.toOption.map wrap = some mark) : Mark.Varies value mark (again.map wrap) := by
  obtain ⟨inner, known, rfl⟩ := Option.map_eq_some_iff.1 reads
  refine ⟨(varies inner (Except.toOption_eq_some_iff.1 known)).map wrap [] []
    (fun _ => by simp [kept]) rfl, fun other same => ?_⟩
  obtain ⟨again, -, rfl⟩ := Except.map_eq_ok_iff.1 same
  exact forms inner again

namespace Tag

/-- The rule for the arguments of a tag that has operands. -/
def grammar? (tag : Tag) : Option Peg :=
  if tag.keyword ∈ ["if", "unless", "elseif", "elsif"] then some Grammar.conditionTag
  else if tag.keyword = "case" then some Grammar.caseTag
  else if tag.keyword = "when" then some Grammar.whenTag
  else if tag.keyword = "assign" then some Grammar.assignTag
  else none

/-- What a tag that has operands says, or the problem of reading them. -/
def reading? (config : Config) (tag : Tag) : Option (Checked Mark) :=
  if tag.keyword = "if" then some (tag.arguments.condition.map (.ifTag false))
  else if tag.keyword = "unless" then some (tag.arguments.condition.map (.ifTag true))
  else if tag.keyword = "elseif" ∨ tag.keyword = "elsif" then
    some (tag.arguments.condition.map .elseIf)
  else if tag.keyword = "case" then some (tag.arguments.subject.map .caseTag)
  else if tag.keyword = "when" then some (tag.arguments.values.map .whenTag)
  else if tag.keyword = "assign" then
    some ((tag.arguments.assignment config.hasFilter).map fun (name, value) => .assign name value)
  else none

theorem seals_of_grammar? {tag : Tag} {grammar : Peg} (known : tag.grammar? = some grammar) :
    grammar.Seals false := by
  unfold grammar? at known
  split_ifs at known <;> cases known
  · exact Grammar.seals_conditionTag
  · exact Grammar.seals_caseTag
  · exact Grammar.seals_whenTag
  · exact Grammar.seals_assignTag

theorem mark?_of_reading? {config : Config} {tag : Tag} {reading : Checked Mark}
    (reads : tag.reading? config = some reading) : tag.mark? config = reading.toOption := by
  unfold reading? at reads
  split_ifs at reads with ifKey unlessKey elseIfKey caseKey whenKey assignKey <;> cases reads <;>
    rw [Except.toOption_map]
  · simp only [mark?, ifKey, if_true]
  · simp only [mark?, unlessKey, String.reduceEq, if_false, if_true]
  · rcases elseIfKey with key | key <;>
      simp only [mark?, key, String.reduceEq, or_true, true_or, if_false, if_true]
  · simp only [mark?, caseKey, String.reduceEq, if_false, if_true]
  · simp only [mark?, whenKey, String.reduceEq, or_self, if_false, if_true]
  · simp only [mark?, assignKey, String.reduceEq, if_false, if_true]

/-- A tag says the same around another literal, or fails as reading the literal does. -/
theorem exists_reading?_varies {config : Config} {exchange : Exchange} {front : List Char}
    {keyword : String} {position place : Nat} (closed : Sealed front) {grammar : Peg} {mark : Mark}
    (known : (Tag.mk keyword position ⟨exchange.before front, place⟩).grammar? = some grammar)
    (reached : exchange.Reached grammar front)
    (reads : (Tag.mk keyword position ⟨exchange.before front, place⟩).mark? config = some mark) :
    ∃ again, (Tag.mk keyword position ⟨exchange.after front, place⟩).reading? config = some again ∧
      Mark.Varies
        (Numeral.value ⟨exchange.newRule, exchange.new, place + Text.width front⟩) mark again := by
  unfold grammar? at known
  split_ifs at known with conditionKey caseKey whenKey assignKey <;> cases known
  · simp only [List.mem_cons, List.not_mem_nil, or_false] at conditionKey
    rcases conditionKey with rfl | rfl | rfl | rfl
    all_goals
      simp only [mark?, String.reduceEq, or_true, true_or, if_false, if_true] at reads
      exact ⟨_, rfl, Mark.varies_of_map _ (fun _ => rfl) (fun _ _ => by constructor)
        (fun _ => TagInside.condition_varies closed reached) reads⟩
  · obtain rfl : keyword = "case" := caseKey
    simp only [mark?, String.reduceEq, if_false, if_true] at reads
    exact ⟨_, rfl, Mark.varies_of_map _ (fun _ => rfl) (fun _ _ => by constructor)
      (fun _ => TagInside.subject_varies closed reached) reads⟩
  · obtain rfl : keyword = "when" := whenKey
    simp only [mark?, String.reduceEq, or_self, if_false, if_true] at reads
    exact ⟨_, rfl, Mark.varies_of_map _ (fun _ => rfl) (fun _ _ => by constructor)
      (fun _ => TagInside.values_varies closed reached) reads⟩
  · obtain rfl : keyword = "assign" := assignKey
    simp only [mark?, String.reduceEq, if_false, if_true] at reads
    exact ⟨_, rfl, Mark.varies_of_map _ (fun _ => rfl) (fun _ _ => by constructor)
      (fun _ => TagInside.assignment_varies closed reached) reads⟩

end Tag

/-- What stands in front of a numeral: in a tag there is the keyword, and blanks behind it. -/
def Delimiter.Leads (delimiter : Delimiter) (front : List Char) : Prop :=
  delimiter = .block → ∃ keyword gap lead, front = keyword ++ (gap ++ lead) ∧
    (∀ char ∈ keyword, Text.isBlank char = false) ∧
    (∀ char ∈ gap, Text.isBlank char = true) ∧ gap ≠ []

namespace Segment

/-- What a span shows that has an inside at a byte position. -/
def ofInside : Delimiter → List Char → Nat → Segment
  | .output => .output
  | .block => .block

/-- The numerals among the operands of a segment. -/
def numerals : Segment → List Numeral
  | .text _ => []
  | .output inner position => TagInside.numerals ⟨inner, position⟩ Grammar.outputTag
  | .block inner position =>
      let tag := Tag.ofInside inner position
      tag.grammar?.elim [] tag.arguments.numerals

/-- What a segment that has operands says, or the problem of reading them. -/
def reading? (config : Config) : Segment → Option (Checked Mark)
  | .text _ => none
  | .output inner position =>
      some ((TagInside.output config.hasFilter ⟨inner, position⟩).map .output)
  | .block inner position => (Tag.ofInside inner position).reading? config

theorem mark?_of_reading? {config : Config} {segment : Segment} {reading : Checked Mark}
    (reads : segment.reading? config = some reading) :
    segment.mark? config = reading.toOption := by
  cases segment with
  | text content => cases reads
  | output inner position =>
      cases reads
      rw [mark?, Except.toOption_map]
  | block inner position => exact Tag.mark?_of_reading? reads

/--
A segment says the same around another literal when another numeral that could
stand there is in the place of one of its own; or it fails as reading the new
numeral does.
-/
structure Varies (config : Config) (delimiter : Delimiter) (position : Nat) (mark : Mark)
    (front : List Char) (numeral : Numeral) (back : List Char) : Prop where
  isNumeral : Grammar.IsNumeral back numeral.rule numeral.text
  leads : delimiter.Leads front
  position_eq : numeral.position = position + Text.width front
  varies : ∀ rule text, Grammar.IsNumeral back rule text →
    ∃ again,
      (ofInside delimiter (front ++ (text ++ back)) position).reading? config = some again ∧
      Mark.Varies (Numeral.value ⟨rule, text, numeral.position⟩) mark again

theorem exists_of_mem_numerals_output {config : Config} {inner : List Char} {position : Nat}
    {mark : Mark} {numeral : Numeral} (member : numeral ∈ (output inner position).numerals)
    (reads : (output inner position).mark? config = some mark) :
    ∃ front back, inner = front ++ (numeral.text ++ back) ∧
      Varies config .output position mark front numeral back := by
  obtain ⟨front, back, whole, closed, isNumeral, position_eq, trees, rest, found, leaf, inTrees,
    starts⟩ := TagInside.exists_of_mem_numerals Grammar.seals_outputTag member
  obtain rfl : inner = _ := whole
  refine ⟨front, back, rfl, isNumeral, nofun, position_eq, fun rule text other => ⟨_, rfl, ?_⟩⟩
  let exchange : Exchange := ⟨back, _, _, rule, text, isNumeral, other⟩
  have reached : exchange.Reached Grammar.outputTag front :=
    ⟨trees, rest, found, leaf, inTrees, starts⟩
  have varies (value : Output) :=
    @TagInside.output_varies exchange front position closed config.hasFilter value reached
  rw [position_eq]
  exact Mark.varies_of_map .output (fun _ => rfl) (fun _ _ => .output _ _) varies reads

/-- Arguments that begin with no blank, behind the keyword of a tag and blanks. -/
theorem ofInside_keyword_append {keyword gap arguments : List Char} (position : Nat)
    (solid : ∀ char ∈ keyword, Text.isBlank char = false)
    (blank : ∀ char ∈ gap, Text.isBlank char = true) (nonempty : gap ≠ [])
    (begins : Text.trimStart arguments = arguments) :
    Tag.ofInside (keyword ++ (gap ++ arguments)) position =
      ⟨String.ofList keyword, position,
        ⟨arguments, position + Text.width (keyword ++ gap)⟩⟩ := by
  obtain ⟨word, behind⟩ := @Text.words_between keyword gap arguments solid blank nonempty
  rw [begins] at behind
  rw [Tag.ofInside, word, behind]
  congr 2
  simp only [Text.width_append]
  omega

/-- Where a text begins with no blank, it does so with another numeral in it. -/
theorem trimStart_append_numeral {front back old text : List Char} {rule : Grammar.Rule}
    (begins : Text.trimStart (front ++ old) = front ++ old)
    (numeral : Grammar.IsNumeral back rule text) :
    Text.trimStart (front ++ (text ++ back)) = front ++ (text ++ back) := by
  cases front with
  | nil =>
      obtain ⟨char, chars, rfl, -⟩ := numeral.exists_cons
      exact Text.trimStart_cons_of_not_blank (numeral.forall_not_blank char List.mem_cons_self) _
  | cons char front =>
      obtain ⟨first, head, solid⟩ := Text.exists_head?_of_trimStart (by simp) begins
      cases head
      exact Text.trimStart_cons_of_not_blank solid _

theorem exists_of_mem_numerals_block {config : Config} {inner : List Char} {position : Nat}
    {mark : Mark} {numeral : Numeral} (member : numeral ∈ (block inner position).numerals)
    (reads : (block inner position).mark? config = some mark) :
    ∃ front back, inner = front ++ (numeral.text ++ back) ∧
      Varies config .block position mark front numeral back := by
  simp only [numerals] at member
  cases known : (Tag.ofInside inner position).grammar? with
  | none =>
      rw [known] at member
      cases member
  | some grammar =>
      rw [known, Option.elim_some] at member
      obtain ⟨lead, back, whole, closed, isNumeral, position_eq, trees, rest, found, leaf, inTrees,
        starts⟩ := TagInside.exists_of_mem_numerals (Tag.seals_of_grammar? known) member
      have arguments : Text.trimStart (Text.fromBlank inner) = lead ++ (numeral.text ++ back) :=
        whole
      have begins : Text.trimStart (Text.trimStart (Text.fromBlank inner)) = _ :=
        List.dropWhile_idempotent Text.isBlank (Text.fromBlank inner)
      have nonempty : Text.trimStart (Text.fromBlank inner) ≠ [] := by
        simp [arguments, isNumeral.ne_nil]
      obtain ⟨keyword, gap, split, solid, blank, gap_ne⟩ := Text.exists_eq_word_append nonempty
      rw [← Text.trimStart, arguments] at begins
      rw [arguments] at split
      subst split
      have tag := ofInside_keyword_append position solid blank gap_ne begins
      rw [mark?, tag] at reads
      rw [tag] at known found position_eq
      have position_eq : numeral.position = position + Text.width (keyword ++ (gap ++ lead)) := by
        rw [position_eq, Nat.add_assoc, ← Text.width_append, List.append_assoc]
      refine ⟨keyword ++ (gap ++ lead), back, by simp, isNumeral,
        fun _ => ⟨keyword, gap, lead, rfl, solid, blank, gap_ne⟩, position_eq,
        fun rule text other => ?_⟩
      let exchange : Exchange := ⟨back, _, _, rule, text, isNumeral, other⟩
      have reached : exchange.Reached grammar lead :=
        ⟨trees, rest, found, leaf, inTrees, starts⟩
      obtain ⟨again, read, varies⟩ :=
        @Tag.exists_reading?_varies config exchange lead _ position _ closed grammar mark known
          reached reads
      refine ⟨again, ?_, ?_⟩
      · rw [List.append_assoc, List.append_assoc, ofInside, reading?,
          ofInside_keyword_append position solid blank gap_ne
            (trimStart_append_numeral begins other)]
        exact read
      · rwa [position_eq, ← List.append_assoc, Text.width_append, ← Nat.add_assoc]

/-- A numeral of a segment stands in it, and another one can stand in its place. -/
theorem exists_of_mem_numerals {config : Config} {delimiter : Delimiter} {inner : List Char}
    {position : Nat} {mark : Mark} {numeral : Numeral}
    (member : numeral ∈ (ofInside delimiter inner position).numerals)
    (reads : (ofInside delimiter inner position).mark? config = some mark) :
    ∃ front back, inner = front ++ (numeral.text ++ back) ∧
      Varies config delimiter position mark front numeral back := by
  cases delimiter with
  | output => exact exists_of_mem_numerals_output member reads
  | block => exact exists_of_mem_numerals_block member reads

end Segment

end Stencil
