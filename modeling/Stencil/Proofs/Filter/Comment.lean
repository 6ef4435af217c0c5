import Stencil.Proofs.Filter.Stripping

/-!
# Comments in markup

A comment is removed as a whole if it stands on one line.  One in which a line
ends is read as a markup tag, which goes up to the first closing bracket, and what
follows that in the comment is left, unless it is made up of tags itself.
-/

namespace Stencil

namespace Text

/-- A character that is missing in the last part of a text stands before that part. -/
theorem exists_append_of_append_eq {text more front back : List Char} {char : Char}
    (absent : char ∉ more) (same : text ++ more = front ++ char :: back) :
    ∃ behind, text = front ++ char :: behind ∧ back = behind ++ more := by
  rw [List.append_eq_append_iff] at same
  rcases same with ⟨between, -, isMore⟩ | ⟨between, isText, isBack⟩
  · exact absurd (by simp [isMore]) absent
  · cases between with
    | nil =>
        rw [List.nil_append] at isBack
        exact absurd (by simp [← isBack]) absent
    | cons head behind =>
        rw [List.cons_append, List.cons.injEq] at isBack
        obtain ⟨rfl, isBack⟩ := isBack
        exact ⟨behind, isText, isBack⟩

end Text

namespace Filter

variable {text rest body more : List Char}

/-- A comment with its brackets. -/
def comment (body : List Char) : List Char :=
  ['<', '!', '-', '-'] ++ body ++ ['-', '-', '>']

/-! ## Which tag is read -/

/--
The tag with which a text begins, given what follows it.  A comment comes first:
a markup tag is read only where no comment begins.
-/
inductive Leads : (tag rest : List Char) → Prop
  | comment {body rest : List Char} (closed : Text.ClosedBy ['-', '-', '>'] body)
      (oneLine : '\n' ∉ body) : Leads (comment body) rest
  | markup {body rest : List Char} (plain : '>' ∉ body)
      (apart : ∀ inside behind, Text.ClosedBy ['-', '-', '>'] inside → '\n' ∉ inside →
        '<' :: (body ++ ['>']) ++ rest ≠ Filter.comment inside ++ behind) :
      Leads ('<' :: (body ++ ['>'])) rest

theorem afterTag?_eq_some_iff :
    afterTag? text = some rest ↔ ∃ tag, text = tag ++ rest ∧ Leads tag rest := by
  constructor
  · intro found
    rw [afterTag?, Option.or_eq_some_iff] at found
    rcases found with isComment | ⟨noComment, isMarkup⟩
    · obtain ⟨body, rfl, closed, oneLine⟩ := afterComment?_eq_some_iff.1 isComment
      exact ⟨comment body, rfl, .comment closed oneLine⟩
    · obtain ⟨body, rfl, plain⟩ := afterMarkup?_eq_some_iff.1 isMarkup
      have whole : '<' :: (body ++ '>' :: rest) = '<' :: (body ++ ['>']) ++ rest := by simp
      refine ⟨'<' :: (body ++ ['>']), whole, .markup plain ?_⟩
      intro inside behind closed oneLine same
      have begins := afterComment?_eq_some_iff.2 ⟨inside, whole.trans same, closed, oneLine⟩
      rw [noComment] at begins
      cases begins
  · rintro ⟨tag, rfl, leads⟩
    rw [afterTag?, Option.or_eq_some_iff]
    cases leads with
    | comment closed oneLine =>
        exact .inl (afterComment?_eq_some_iff.2 ⟨_, rfl, closed, oneLine⟩)
    | @markup body rest plain apart =>
        refine .inr ⟨?_, afterMarkup?_eq_some_iff.2 ⟨body, by simp, plain⟩⟩
        cases found : afterComment? ('<' :: (body ++ ['>']) ++ rest) with
        | none => rfl
        | some behind =>
            obtain ⟨inside, same, closed, oneLine⟩ := afterComment?_eq_some_iff.1 found
            exact absurd same (apart inside behind closed oneLine)

/-- A text that is read as tags from its beginning to its end. -/
inductive AllTags : List Char → Prop
  | nil : AllTags []
  | cons {tag rest : List Char} (leads : Leads tag rest) (later : AllTags rest) :
      AllTags (tag ++ rest)

/-- Where no tag begins, a character that is no opening bracket stays on its own. -/
theorem stripTags_cons {char : Char} {chars : List Char}
    (missing : afterTag? (char :: chars) = none) :
    stripTags (char :: chars) =
      if char = '<' then char :: chars else char :: stripTags chars := by
  rw [stripTags]
  split
  · next rest found =>
      rw [missing] at found
      cases found
  · rfl

/-- Nothing is left of a text just when it is made up of tags. -/
theorem stripTags_eq_nil_iff : stripTags text = [] ↔ AllTags text := by
  constructor
  · intro empty
    fun_induction stripTags text with
    | case1 text rest found ih =>
        obtain ⟨tag, rfl, leads⟩ := afterTag?_eq_some_iff.1 found
        exact .cons leads (ih empty)
    | case2 missing => exact .nil
    | case3 chars missing => cases empty
    | case4 char chars missing plain ih => cases empty
  · intro allTags
    induction allTags with
    | nil => rw [stripTags_of_tagless .nil]
    | cons leads later ih =>
        rw [stripTags_of_afterTag? (afterTag?_eq_some_iff.2 ⟨_, rfl, leads⟩), ih]

/-! ## What stands around a tag -/

theorem afterComment?_append (absent : '>' ∉ more) :
    afterComment? (text ++ more) = (afterComment? text).map (· ++ more) := by
  ext behind
  rw [Option.map_eq_some_iff, afterComment?_eq_some_iff]
  constructor
  · rintro ⟨body, same, closed, oneLine⟩
    have split : text ++ more = ['<', '!', '-', '-'] ++ body ++ ['-', '-'] ++ '>' :: behind := by
      rw [same]
      simp
    obtain ⟨rest, rfl, rfl⟩ := Text.exists_append_of_append_eq absent split
    refine ⟨rest, afterComment?_eq_some_iff.2 ⟨body, ?_, closed, oneLine⟩, rfl⟩
    simp
  · rintro ⟨rest, found, rfl⟩
    obtain ⟨body, rfl, closed, oneLine⟩ := afterComment?_eq_some_iff.1 found
    exact ⟨body, List.append_assoc _ _ _, closed, oneLine⟩

theorem afterMarkup?_append (absent : '>' ∉ more) :
    afterMarkup? (text ++ more) = (afterMarkup? text).map (· ++ more) := by
  ext behind
  rw [Option.map_eq_some_iff, afterMarkup?_eq_some_iff]
  constructor
  · rintro ⟨body, same, plain⟩
    rw [← List.cons_append] at same
    obtain ⟨rest, rfl, rfl⟩ := Text.exists_append_of_append_eq absent same
    exact ⟨rest, afterMarkup?_eq_some_iff.2 ⟨body, List.cons_append, plain⟩, rfl⟩
  · rintro ⟨rest, found, rfl⟩
    obtain ⟨body, rfl, plain⟩ := afterMarkup?_eq_some_iff.1 found
    exact ⟨body, by simp, plain⟩

/-- A tag is read in the same way when no closing bracket is written behind the text. -/
theorem afterTag?_append (absent : '>' ∉ more) :
    afterTag? (text ++ more) = (afterTag? text).map (· ++ more) := by
  rw [afterTag?, afterTag?, afterComment?_append absent, afterMarkup?_append absent]
  cases afterComment? text <;> rfl

theorem stripTags_append (absent : '>' ∉ more) :
    stripTags (text ++ more) = stripTags text ++ more := by
  fun_induction stripTags text with
  | case1 text rest found ih =>
      have begins : afterTag? (text ++ more) = some (rest ++ more) := by
        rw [afterTag?_append absent, found]
        rfl
      rw [stripTags_of_afterTag? begins, ih]
  | case2 missing => exact stripTags_of_tagless (tagless_of_not_mem absent)
  | case3 chars missing =>
      have still : afterTag? ('<' :: (chars ++ more)) = none := by
        rw [← List.cons_append, afterTag?_append absent, missing]
        rfl
      rw [List.cons_append, stripTags_cons still, if_pos rfl]
  | case4 char chars missing plain ih =>
      have still : afterTag? (char :: (chars ++ more)) = none := by
        rw [← List.cons_append, afterTag?_append absent, missing]
        rfl
      rw [List.cons_append, stripTags_cons still, if_neg plain, ih, List.cons_append]

theorem stripTags_append_left {before : List Char} (absent : '<' ∉ before) :
    stripTags (before ++ text) = before ++ stripTags text := by
  induction before with
  | nil => rfl
  | cons char before ih =>
      obtain ⟨differs, later⟩ := not_or.1 (mt List.mem_cons.2 absent)
      have missing : afterTag? (char :: (before ++ text)) = none := by
        rw [afterTag?_eq_none_iff]
        intro chars same
        exact absurd (List.cons.inj same).1.symm differs
      rw [List.cons_append, stripTags_cons missing, if_neg (Ne.symm differs), ih later,
        List.cons_append]

/-! ## Comments -/

/-- A comment in which there is no end of a comment is closed by its own end. -/
theorem closedBy_of_single (single : ¬ ['-', '-', '>'] <:+: body) :
    Text.ClosedBy ['-', '-', '>'] body := by
  refine Text.closedBy_of_not_infix (List.cons_ne_nil _ _) ?_
  rintro ⟨earlier, later, same⟩
  have split : body ++ ['-', '-'] = (earlier ++ ['-', '-']) ++ '>' :: later := by
    simpa using same.symm
  obtain ⟨behind, rfl, -⟩ := Text.exists_append_of_append_eq (by decide) split
  exact single ⟨earlier, behind, by simp⟩

theorem stripTags_comment (single : ¬ ['-', '-', '>'] <:+: body) (oneLine : '\n' ∉ body) :
    stripTags (comment body) = [] := by
  have leads : Leads (comment body) [] := .comment (closedBy_of_single single) oneLine
  have allTags := AllTags.cons leads .nil
  rw [List.append_nil] at allTags
  exact stripTags_eq_nil_iff.2 allTags

/-- Of a comment in which a line ends there is left what follows the first closing bracket. -/
theorem stripTags_comment_of_lines {first : List Char} (single : ¬ ['-', '-', '>'] <:+: body)
    (lines : '\n' ∈ body) (whole : body ++ ['-', '-', '>'] = first ++ '>' :: rest)
    (plain : '>' ∉ first) :
    stripTags (comment body) = stripTags rest := by
  apply stripTags_of_afterTag?
  have same : comment body = '<' :: (['!', '-', '-'] ++ first ++ '>' :: rest) := by
    rw [comment, List.append_assoc, whole]
    simp
  have split : comment body = '<' :: (['!', '-', '-'] ++ first ++ ['>']) ++ rest := by simp [same]
  rw [afterTag?_eq_some_iff]
  refine ⟨_, split, .markup (by simpa using plain) ?_⟩
  intro inside behind closed oneLine begins
  -- Both comments begin the same text, and each is closed by its first end.
  rw [← split] at begins
  have cutBody := (closedBy_of_single single).cut []
  have cutInside := closed.cut behind
  have bodies : body ++ ['-', '-', '>'] ++ [] = inside ++ ['-', '-', '>'] ++ behind := by
    simpa [comment] using begins
  rw [bodies, cutInside] at cutBody
  obtain ⟨rfl, -⟩ := Prod.mk.inj (Option.some.inj cutBody)
  exact oneLine lines

/--
Removing markup tags from a text with a comment in it, which no other bracket
stands around.  The comment goes as a whole if it stands on one line or holds no
closing bracket.  Otherwise what follows the first closing bracket in it is a text
of its own, and the comment goes as a whole just when this text is made up of tags.
-/
theorem stripHtml_whole_comment {before body after : List Char} (value : Value)
    (argument : Option Value) (isText : value.text = before ++ comment body ++ after)
    (plainBefore : '<' ∉ before) (plainAfter : '>' ∉ after)
    (single : ¬ ['-', '-', '>'] <:+: body) :
    ('\n' ∉ body ∨ '>' ∉ body → stripHtml value argument = .ofText (before ++ after)) ∧
      ∀ first rest, '\n' ∈ body → body = first ++ '>' :: rest → '>' ∉ first →
        stripHtml value argument =
            .ofText (before ++ stripTags (rest ++ ['-', '-', '>']) ++ after) ∧
          (stripHtml value argument = .ofText (before ++ after) ↔
            AllTags (rest ++ ['-', '-', '>'])) := by
  have around : stripHtml value argument =
      .ofText (before ++ stripTags (comment body) ++ after) := by
    rw [stripHtml, isText, stripTags_append plainAfter, stripTags_append_left plainBefore]
  constructor
  · intro easy
    have nothing : stripTags (comment body) = [] := by
      by_cases lines : '\n' ∈ body
      · have plain := easy.resolve_left (not_not_intro lines)
        have whole : body ++ ['-', '-', '>'] = (body ++ ['-', '-']) ++ '>' :: [] := by simp
        rw [stripTags_comment_of_lines single lines whole (by simpa using plain)]
        exact stripTags_of_tagless .nil
      · exact stripTags_comment single lines
    rw [around, nothing, List.append_nil]
  · intro first rest lines whole plain
    have left : stripTags (comment body) = stripTags (rest ++ ['-', '-', '>']) :=
      stripTags_comment_of_lines single lines (by simp [whole]) plain
    rw [left] at around
    refine ⟨around, ?_⟩
    rw [around, Value.ofText_inj, ← stripTags_eq_nil_iff, List.append_assoc,
      List.append_right_inj, List.append_left_eq_self]

/-- The tag and the closing bracket in the comment go with it. -/
theorem stripHtml_whole_comment_tag :
    let value := Value.string "a<!--<i> >-->b"
    value.text = ['a'] ++ comment ['<', 'i', '>', ' ', '>'] ++ ['b'] ∧
      stripHtml value none = .string "ab" := by
  intro value
  have isText : value.text = ['a'] ++ comment ['<', 'i', '>', ' ', '>'] ++ ['b'] := by decide
  have single : ¬ ['-', '-', '>'] <:+: ['<', 'i', '>', ' ', '>'] := by decide
  have removed := (stripHtml_whole_comment value none isText (by decide) (by decide) single).1
  exact ⟨isText, removed (.inl (by decide))⟩

/-- A comment with a line end in it, of which the end stays. -/
theorem stripHtml_comment_two_lines :
    let value := Value.string "a<!--\n>-->b"
    value.text = ['a'] ++ comment ['\n', '>'] ++ ['b'] ∧
      ¬ ['-', '-', '>'] <:+: ['\n', '>'] ∧
      stripHtml value none = .string "a-->b" ∧ stripHtml value none ≠ .string "ab" := by
  intro value
  have isText : value.text = ['a'] ++ comment ['\n', '>'] ++ ['b'] := by decide
  have single : ¬ ['-', '-', '>'] <:+: ['\n', '>'] := by decide
  have left : stripTags (comment ['\n', '>']) = ['-', '-', '>'] := by
    have whole : ['\n', '>'] ++ ['-', '-', '>'] = ['\n'] ++ '>' :: ['-', '-', '>'] := rfl
    rw [stripTags_comment_of_lines single (by decide) whole (by decide)]
    exact stripTags_of_tagless (by unfold Tagless; decide)
  have stripped : stripHtml value none = .string "a-->b" := by
    rw [stripHtml, isText, stripTags_append (by decide), stripTags_append_left (by decide), left]
    rfl
  refine ⟨isText, single, stripped, ?_⟩
  rw [stripped]
  simp

end Filter

end Stencil
