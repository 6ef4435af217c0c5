import Stencil.Filter.Text
import Stencil.Proofs.Text.Occurrence

/-!
# Removing markup tags

An opening bracket stays only if no closing bracket stands anywhere behind it.
So nothing that is left can make up a tag with what comes later, however the
brackets in the text are arranged, and there is nothing to remove any more.
-/

namespace Stencil

namespace Filter

variable {text rest : List Char} {char : Char}

/--
What is removed from a text.  A comment goes up to the first end of a comment,
on one line.  Any other tag goes up to the first closing bracket.
-/
inductive IsTag : List Char → Prop
  | comment {body : List Char} (closed : Text.ClosedBy ['-', '-', '>'] body)
      (oneLine : '\n' ∉ body) : IsTag (['<', '!', '-', '-'] ++ body ++ ['-', '-', '>'])
  | markup {body : List Char} (plain : '>' ∉ body) : IsTag ('<' :: (body ++ ['>']))

theorem IsTag.exists_eq {tag : List Char} (isTag : IsTag tag) :
    ∃ inside, tag = '<' :: (inside ++ ['>']) := by
  cases isTag with
  | @comment body closed oneLine => exact ⟨['!', '-', '-'] ++ body ++ ['-', '-'], by simp⟩
  | @markup body plain => exact ⟨body, rfl⟩

/-- A text from which some parts are left out, all of them of one kind. -/
inductive LeavesOut (IsPart : List Char → Prop) : List Char → List Char → Prop
  | nil : LeavesOut IsPart [] []
  | keep {text result : List Char} (char : Char) (later : LeavesOut IsPart text result) :
      LeavesOut IsPart (char :: text) (char :: result)
  | drop {part text result : List Char} (isPart : IsPart part)
      (later : LeavesOut IsPart text result) : LeavesOut IsPart (part ++ text) result

theorem LeavesOut.refl (IsPart : List Char → Prop) (text : List Char) :
    LeavesOut IsPart text text := by
  induction text with
  | nil => exact .nil
  | cons char chars ih => exact .keep char ih

theorem LeavesOut.imp {First Second : List Char → Prop} {result : List Char}
    (imp : ∀ part, First part → Second part) (leaves : LeavesOut First text result) :
    LeavesOut Second text result := by
  induction leaves with
  | nil => exact .nil
  | keep char later ih => exact .keep char ih
  | drop isPart later ih => exact .drop (imp _ isPart) ih

/-! ## What begins a text -/

/-- A comment ends at the first end of a comment, unless a line ends before it. -/
theorem afterCommentEnd?_eq_some_iff :
    afterCommentEnd? text = some rest ↔
      ∃ body, Text.cut ['-', '-', '>'] text = some (body, rest) ∧ '\n' ∉ body := by
  induction text with
  | nil => simp [afterCommentEnd?, Text.cut, Text.after]
  | cons char chars ih =>
      rw [afterCommentEnd?, Text.cut]
      cases Text.after ['-', '-', '>'] (char :: chars) with
      | some behind =>
          constructor
          · rintro ⟨⟩
            exact ⟨[], rfl, List.not_mem_nil⟩
          · rintro ⟨body, ⟨⟩, -⟩
            rfl
      | none =>
          by_cases lineEnd : char = '\n'
          · simp [lineEnd]
          · simp [lineEnd, Ne.symm lineEnd, ih]

/-- A comment begins a text. -/
theorem afterComment?_eq_some_iff :
    afterComment? text = some rest ↔
      ∃ body, text = ['<', '!', '-', '-'] ++ body ++ ['-', '-', '>'] ++ rest ∧
        Text.ClosedBy ['-', '-', '>'] body ∧ '\n' ∉ body := by
  constructor
  · intro found
    rw [afterComment?, Option.bind_eq_some_iff] at found
    obtain ⟨inside, opened, ended⟩ := found
    obtain ⟨body, cutAt, oneLine⟩ := afterCommentEnd?_eq_some_iff.1 ended
    obtain ⟨whole, closed⟩ := Text.cut_eq_some_iff.1 cutAt
    refine ⟨body, ?_, closed, oneLine⟩
    rw [Text.eq_append_of_after opened, whole]
    simp
  · rintro ⟨body, rfl, closed, oneLine⟩
    have ended := afterCommentEnd?_eq_some_iff.2 ⟨body, closed.cut rest, oneLine⟩
    rw [afterComment?, List.append_assoc, List.append_assoc, Text.after_append, Option.bind_some,
      ← List.append_assoc]
    exact ended

/-- A markup tag begins a text. -/
theorem afterMarkup?_eq_some_iff :
    afterMarkup? text = some rest ↔
      ∃ body, text = '<' :: (body ++ '>' :: rest) ∧ '>' ∉ body := by
  constructor
  · intro found
    rw [afterMarkup?] at found
    split at found
    · cases found
    · next inside opened =>
        obtain ⟨⟨body, behind⟩, cutAt, rfl⟩ := Option.map_eq_some_iff.1 found
        obtain ⟨whole, closed⟩ := Text.cut_eq_some_iff.1 cutAt
        refine ⟨body, ?_, Text.closedBy_singleton_iff.1 closed⟩
        rw [Text.eq_append_of_after opened, whole]
        simp
  · rintro ⟨body, rfl, plain⟩
    have cutAt := (Text.closedBy_singleton_iff.2 plain).cut rest
    rw [List.append_assoc, List.singleton_append] at cutAt
    simp [afterMarkup?, Text.after, cutAt]

theorem exists_tag_of_afterTag? (found : afterTag? text = some rest) :
    ∃ tag, IsTag tag ∧ text = tag ++ rest := by
  rw [afterTag?, Option.or_eq_some_iff] at found
  rcases found with isComment | ⟨-, isMarkup⟩
  · obtain ⟨body, rfl, closed, oneLine⟩ := afterComment?_eq_some_iff.1 isComment
    exact ⟨_, .comment closed oneLine, rfl⟩
  · obtain ⟨body, rfl, plain⟩ := afterMarkup?_eq_some_iff.1 isMarkup
    exact ⟨_, .markup plain, by simp⟩

/-- A tag begins wherever an opening bracket has a closing one behind it, and nowhere else. -/
theorem afterTag?_eq_none_iff :
    afterTag? text = none ↔ ∀ chars, text = '<' :: chars → '>' ∉ chars := by
  constructor
  · rintro missing chars rfl member
    obtain ⟨earlier, later, rfl⟩ := List.append_of_mem member
    have uncut : Text.cut ['>'] (earlier ++ '>' :: later) = none := by
      simpa [afterMarkup?, Text.after] using (Option.or_eq_none_iff.1 missing).2
    exact Text.cut_eq_none_iff.1 uncut ⟨earlier, later, by simp⟩
  · intro absent
    cases found : afterTag? text with
    | none => rfl
    | some rest =>
        obtain ⟨tag, isTag, rfl⟩ := exists_tag_of_afterTag? found
        obtain ⟨inside, rfl⟩ := isTag.exists_eq
        exact absurd (by simp) (absent (inside ++ ['>'] ++ rest) (by simp))

/-! ## Texts without tags -/

/-- No opening bracket is followed by a closing one, next to it or anywhere behind. -/
def Tagless (text : List Char) : Prop :=
  text.Pairwise fun first second => ¬ (first = '<' ∧ second = '>')

theorem tagless_cons {chars : List Char} :
    Tagless (char :: chars) ↔ (char = '<' → '>' ∉ chars) ∧ Tagless chars := by
  rw [Tagless, List.pairwise_cons]
  refine and_congr_left fun _ => ?_
  constructor
  · intro apart isOpening member
    exact apart _ member ⟨isOpening, rfl⟩
  · rintro absent other member ⟨isOpening, rfl⟩
    exact absent isOpening member

theorem tagless_of_not_mem (absent : '>' ∉ text) : Tagless text := by
  induction text with
  | nil => exact .nil
  | cons char chars ih =>
      have later := List.not_mem_of_not_mem_cons absent
      exact tagless_cons.2 ⟨fun _ => later, ih later⟩

theorem Tagless.afterTag?_eq_none (tagless : Tagless text) : afterTag? text = none := by
  rw [afterTag?_eq_none_iff]
  rintro chars rfl
  exact (tagless_cons.1 tagless).1 rfl

theorem tagless_stripTags (text : List Char) : Tagless (stripTags text) := by
  fun_induction stripTags text with
  | case1 text rest found ih => exact ih
  | case2 missing => exact .nil
  | case3 chars missing =>
      -- The bracket stays with all that follows, as there is no closing one.
      have absent := afterTag?_eq_none_iff.1 missing chars rfl
      exact tagless_cons.2 ⟨fun _ => absent, tagless_of_not_mem absent⟩
  | case4 char chars missing plain ih =>
      exact tagless_cons.2 ⟨fun isOpening => absurd isOpening plain, ih⟩

theorem stripTags_of_tagless (tagless : Tagless text) : stripTags text = text := by
  fun_induction stripTags text with
  | case1 text rest found ih =>
      rw [tagless.afterTag?_eq_none] at found
      cases found
  | case2 missing => rfl
  | case3 chars missing => rfl
  | case4 char chars missing plain ih => rw [ih (tagless_cons.1 tagless).2]

theorem stripTags_of_afterTag? (found : afterTag? text = some rest) :
    stripTags text = stripTags rest := by
  rw [stripTags]
  split
  · next behind here => rw [Option.some.inj (found.symm.trans here)]
  · next missing => simp [found] at missing

theorem leavesOut_stripTags (text : List Char) : LeavesOut IsTag text (stripTags text) := by
  fun_induction stripTags text with
  | case1 text rest found ih =>
      obtain ⟨tag, isTag, rfl⟩ := exists_tag_of_afterTag? found
      exact .drop isTag ih
  | case2 missing => exact .nil
  | case3 chars missing => exact .refl _ _
  | case4 char chars missing plain ih => exact .keep char ih

/--
Removing markup tags.  In what is left no opening bracket is followed by a
closing one, near or far.  It is the text of the value without some of the
comments and tags in it, all of which begin with an opening and end with a
closing bracket.  Doing it again does not change anything.
-/
theorem stripHtml_tagless (value : Value) (argument : Option Value) :
    ∃ result, stripHtml value argument = .ofText result ∧
      (result.Pairwise fun first second => ¬ (first = '<' ∧ second = '>')) ∧
      LeavesOut (fun part => IsTag part ∧ ∃ inside, part = '<' :: (inside ++ ['>']))
        value.text result ∧
      ∀ again, stripHtml (stripHtml value argument) again = stripHtml value argument := by
  have tagless := tagless_stripTags value.text
  refine ⟨stripTags value.text, rfl, tagless, ?_, fun again => ?_⟩
  · exact (leavesOut_stripTags value.text).imp fun _ isTag => ⟨isTag, isTag.exists_eq⟩
  · rw [stripHtml, stripHtml, Value.text_ofText, stripTags_of_tagless tagless]

/-- The first closing bracket ends the first tag, also where it ends a comment inside. -/
theorem stripHtml_tagless_nested :
    let value := Value.string "<!<!---->b> <c"
    stripHtml value none = .string "b> <c" ∧
      stripHtml (.string "b> <c") none = .string "b> <c" := by
  intro value
  have found : afterTag? value.text = some "b> <c".toList := by decide
  have tagless : Tagless "b> <c".toList := by
    unfold Tagless
    decide
  have stripped : stripHtml value none = .string "b> <c" := by
    rw [stripHtml, stripTags_of_afterTag? found, stripTags_of_tagless tagless, Value.ofText,
      String.ofList_toList]
  obtain ⟨-, -, -, -, again⟩ := stripHtml_tagless value none
  rw [stripped] at again
  exact ⟨stripped, again none⟩

end Filter

end Stencil
