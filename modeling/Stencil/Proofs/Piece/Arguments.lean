import Stencil.Proofs.Piece.Printing

/-!
# Arguments between blanks

The arguments of a tag are found between whatever blanks stand around them, so a
tag says the same with a text behind its keyword as with the trimmed text.
-/

namespace Stencil

open Grammar (isName)

namespace Tag

section Loose

variable {keyword : String} {leading arguments : List Char}

/-- A keyword and arguments with blanks before them. -/
theorem holds_loose (holds : Delimiter.block.Holds keyword.toList)
    (blank : ∀ char ∈ leading, Text.isBlank char = true)
    (argumentsHold : Delimiter.block.Holds arguments) :
    Delimiter.block.Holds (keyword.toList ++ ([' '] ++ leading ++ arguments)) := by
  refine holds.append argumentsHold ?_ (by simp)
  rw [Delimiter.isForeign, List.all_eq_true]
  intro char member
  have charBlank : Text.isBlank char = true := by
    rcases List.mem_append.1 member with space | here
    · exact Text.isBlank_of_mem_space char space
    · exact blank char here
  simp only [Delimiter.closing, List.contains_cons, List.contains_nil]
  have notPercent : char ≠ '%' := by
    rintro rfl
    cases charBlank
  have notBrace : char ≠ '}' := by
    rintro rfl
    cases charBlank
  simp [notPercent, notBrace]

theorem ofInside_loose (solid : ∀ char ∈ keyword.toList, Text.isBlank char = false)
    (blank : ∀ char ∈ leading, Text.isBlank char = true)
    (holds : Delimiter.block.Holds arguments) :
    ∃ position, ofInside (keyword.toList ++ ([' '] ++ leading ++ arguments)) 0 =
      ⟨keyword, 0, ⟨arguments, position⟩⟩ := by
  obtain ⟨word, behind⟩ := @Text.span_word keyword.toList ([' '] ++ leading ++ arguments) solid
    (by simp [Text.isBlank])
  have kept : Text.trimStart ([' '] ++ leading ++ arguments) = arguments := by
    obtain ⟨char, chars, rfl, notBlank⟩ := holds.exists_cons
    have allBlank : ∀ char ∈ [' '] ++ leading, Text.isBlank char = true :=
      List.forall_mem_append.2 ⟨Text.isBlank_of_mem_space, blank⟩
    rw [Text.trimStart_append_of_blank allBlank, Text.trimStart_cons_of_not_blank notBlank]
  exact ⟨_, by rw [ofInside, word, behind, kept, String.ofList_toList]⟩

end Loose

end Tag

namespace Piece

/-- A tag with a keyword and a text behind it, which may have blanks at its ends. -/
def looseTag (keyword : String) (text : List Char) : Piece :=
  .span .block (Delimiter.pad (keyword.toList ++ ' ' :: text))

/-- A tag whose keyword opens no quotation opens none with a text behind it. -/
theorem ofTag?_looseTag {keyword : String} (known : keyword ≠ "raw" ∧ keyword ≠ "comment")
    (holds : Delimiter.block.Holds keyword.toList)
    (solid : ∀ char ∈ keyword.toList, Text.isBlank char = false) {text inner : List Char}
    (shown : Text.trim (Delimiter.pad (keyword.toList ++ ' ' :: text)) =
      keyword.toList ++ ' ' :: inner) :
    Quotation.ofTag? (Delimiter.pad (keyword.toList ++ ' ' :: text)) = none := by
  have word (rest : List Char) : Text.untilBlank (keyword.toList ++ ' ' :: rest) =
      keyword.toList :=
    (Text.span_word solid (by simp [Text.isBlank])).1
  have notRaw : keyword.toList ++ ' ' :: inner ≠ Quotation.raw.opener := by
    intro same
    have begins := word inner
    rw [same] at begins
    exact known.1 (String.toList_inj.1 begins.symm)
  have notComment : Text.firstWord (Delimiter.pad (keyword.toList ++ ' ' :: text)) ≠
      Quotation.comment.opener := by
    obtain ⟨char, chars, same, notBlank⟩ := holds.exists_cons
    have padded : Delimiter.pad (keyword.toList ++ ' ' :: text) =
        [' '] ++ (keyword.toList ++ ' ' :: (text ++ [' '])) := by
      simp [Delimiter.pad]
    have kept : Text.trimStart (keyword.toList ++ ' ' :: (text ++ [' '])) =
        keyword.toList ++ ' ' :: (text ++ [' ']) := by
      rw [same]
      exact Text.trimStart_cons_of_not_blank notBlank _
    rw [Text.firstWord, padded, Text.trimStart_append_of_blank Text.isBlank_of_mem_space, kept,
      word]
    exact fun begins => known.2 (String.toList_inj.1 begins)
  rw [Quotation.ofTag?, shown, if_neg notRaw, if_neg notComment]

theorem denotes_looseTag {config : Config} {keyword : String} {text : List Char} {mark : Mark}
    (known : isName keyword.toList ∧ keyword ≠ "raw" ∧ keyword ≠ "comment")
    (nonempty : Text.trim text ≠ []) (free : ¬ Delimiter.block.closing <:+: text)
    (reads : ∀ position,
      Tag.mark? config ⟨keyword, 0, ⟨Text.trim text, position⟩⟩ = some mark) :
    (looseTag keyword text).Denotes config mark := by
  have word : Delimiter.block.Holds keyword.toList := holds_name known.1
  have solid : ∀ char ∈ keyword.toList, Text.isBlank char = false := fun char member =>
    Grammar.isBlank_of_isIdentChar (Grammar.isIdentChar_of_mem_name known.1 char member)
  have blank : ∀ char ∈ Text.leadingBlanks text, Text.isBlank char = true :=
    fun _ => Text.isBlank_of_mem_leadingBlanks
  obtain ⟨trailing, whole, blankBehind⟩ := Text.exists_trim_append text
  obtain ⟨begins, ends⟩ := Text.exists_ends_trim nonempty
  have holds : Delimiter.block.Holds (Text.trim text) := by
    refine ⟨begins, ends, fun occurs => free (occurs.trans ?_)⟩
    exact ⟨Text.leadingBlanks text, trailing, whole.symm⟩
  have shown : Text.trim (Delimiter.pad (keyword.toList ++ ' ' :: text)) =
      keyword.toList ++ ([' '] ++ Text.leadingBlanks text ++ Text.trim text) := by
    have blanks : ∀ char ∈ trailing ++ [' '], Text.isBlank char = true :=
      List.forall_mem_append.2 ⟨blankBehind, Text.isBlank_of_mem_space⟩
    have found := (Tag.holds_loose word blank holds).trim_append Text.isBlank_of_mem_space blanks
    rw [← found]
    refine congrArg Text.trim ?_
    conv_lhs => rw [whole]
    simp [Delimiter.pad]
  constructor
  · refine ⟨Delimiter.closedBy_pad ?_, fun _ => ofTag?_looseTag known.2 word solid shown⟩
    rw [Text.infix_append_cons_iff (Delimiter.space_not_mem_closing .block)
      (Delimiter.closing_ne_nil .block), not_or]
    exact ⟨word.free, free⟩
  · obtain ⟨position, same⟩ := Tag.ofInside_loose solid blank holds
    rw [looseTag, shown?, shown, Option.bind_some]
    change (Tag.ofInside _ 0).mark? config = some mark
    rw [same, reads position]

/-- An output of a text, which may have blanks at its ends. -/
def looseOutput (text : List Char) : Piece :=
  .span .output (Delimiter.pad text)

theorem denotes_looseOutput {config : Config} {text : List Char} {value : Output}
    (free : ¬ Delimiter.output.closing <:+: text)
    (reads : TagInside.output config.hasFilter ⟨Text.trim text, 0⟩ = .ok value) :
    (looseOutput text).Denotes config (.output value) where
  wellFormed := ⟨Delimiter.closedBy_pad free, by simp⟩
  shown := by
    have shown : Text.trim (Delimiter.pad text) = Text.trim text :=
      Text.trim_append_of_blank Text.isBlank_of_mem_space Text.isBlank_of_mem_space text
    simp [looseOutput, shown?, Mark.ofShown?, shown, Segment.mark?, reads]

end Piece

end Stencil
