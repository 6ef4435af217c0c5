import Stencil.Piece
import Stencil.Proofs.Text.Occurrence
import Stencil.Proofs.Text.Trimming

/-!
# Quotations as their tags

The body of a quotation ends at the first tag that closes it.  Here this is
said in terms of the first words of the tags in the body: none of them closes
the quotation, where in comments each opening word makes up for a closing one.
Reading a quotation finds exactly the bodies of this kind, so what follows a
quotation has no influence on it.
-/

namespace Stencil

namespace Quotation

/-- The first word of the tag at the beginning of a text, if a whole tag stands there. -/
def headWord? (text : List Char) : Option (List Char) :=
  match Delimiter.opens? text with
  | some (.block, inside) =>
      (Text.cut Delimiter.block.closing inside).map fun (content, _) => Text.firstWord content
  | _ => none

/-- The first words of the tags that begin in a body, behind which stands `following`. -/
def tagWords (following : List Char) : List Char → List (List Char)
  | [] => []
  | char :: chars =>
      (headWord? (char :: (chars ++ following))).toList ++ tagWords following chars

/--
How many comments are open inside a quotation after a tag with a first word;
none if the tag closes the quotation.
-/
def depthAfter (kind : Quotation) (depth : Nat) (word : List Char) : Option Nat :=
  if word = kind.closer then
    match depth with
    | 0 => none
    | depth + 1 => some depth
  else if kind = .comment ∧ word = kind.opener then
    some (depth + 1)
  else
    some depth

/-- A body and the inside of the tag behind it that closes the quotation. -/
structure Whole (kind : Quotation) (depth : Nat) (body closing : List Char) : Prop where
  closed : Text.ClosedBy Delimiter.block.closing closing
  word : Text.firstWord closing = kind.closer
  /-- No tag in the body closes the quotation, and all comments in it are closed. -/
  depth_eq :
    (tagWords (Piece.enclose .block closing) body).foldlM kind.depthAfter depth = some 0

theorem isBlank_of_mem_opener {kind : Quotation} {char : Char} (member : char ∈ kind.opener) :
    Text.isBlank char = false := by
  have solid : kind.opener.all fun char => !Text.isBlank char := by cases kind <;> decide
  simpa using List.all_eq_true.1 solid char member

/-- A tag with a blank in it is no raw tag. -/
theorem ne_raw_of_blank {keyword gap arguments : List Char}
    (blank : ∀ char ∈ gap, Text.isBlank char = true) (nonempty : gap ≠ []) :
    keyword ++ (gap ++ arguments) ≠ opener .raw := by
  intro same
  obtain ⟨char, member⟩ := List.exists_mem_of_ne_nil gap nonempty
  have inside : char ∈ opener .raw := by
    rw [← same]
    simp [member]
  have white := blank char member
  rw [isBlank_of_mem_opener inside] at white
  cases white

theorem isBlank_of_mem_closer {kind : Quotation} {char : Char} (member : char ∈ kind.closer) :
    Text.isBlank char = false := by
  have solid : kind.closer.all fun char => !Text.isBlank char := by cases kind <;> decide
  simpa using List.all_eq_true.1 solid char member

theorem percent_not_mem_opener (kind : Quotation) : '%' ∉ kind.opener := by
  cases kind <;> decide

theorem percent_not_mem_closer (kind : Quotation) : '%' ∉ kind.closer := by
  cases kind <;> decide

/-- What ends a word begins with a blank, unless the tag ends there. -/
theorem isBlank_of_isWordEnd {more rest : List Char} {char : Char}
    (ends : isWordEnd (char :: more ++ Delimiter.block.closing ++ rest) = true)
    (closed : Text.ClosedBy Delimiter.block.closing (char :: more)) :
    Text.isBlank char = true := by
  simp only [List.cons_append, isWordEnd, Bool.or_eq_true] at ends
  rcases ends with blank | closing
  · exact blank
  · obtain ⟨remainder, here⟩ := Option.isSome_iff_exists.1 closing
    have opens : Delimiter.block.closing <+: char :: more ++ Delimiter.block.closing :=
      List.prefix_of_prefix_length_le ⟨remainder, (Text.eq_append_of_after here).symm⟩
        (List.prefix_append (char :: more ++ Delimiter.block.closing) rest)
        (by simp only [List.length_append]; omega)
    obtain ⟨later, same⟩ := opens
    obtain rfl := closed [] later (by simpa using same.symm)
    have lengths := congrArg List.length same
    simp only [List.append_nil, List.length_append, List.length_cons] at lengths
    omega

/-- A word that ends where the tag or a blank follows is the first word of the tag. -/
theorem untilBlank_eq_of_after {word content rest remainder : List Char}
    (solid : ∀ char ∈ word, Text.isBlank char = false) (plain : '%' ∉ word)
    (closed : Text.ClosedBy Delimiter.block.closing content)
    (here : Text.after word (content ++ (Delimiter.block.closing ++ rest)) = some remainder)
    (ends : isWordEnd remainder = true) :
    Text.untilBlank content = word := by
  have whole := Text.eq_append_of_after here
  rcases List.append_eq_append_iff.1 whole with ⟨more, rfl, closingEq⟩ | ⟨more, rfl, rfl⟩
  · cases more with
    | nil =>
        rw [List.append_nil] at solid ⊢
        have word := Text.span_word solid
          (fun char (head : [].head? = some char) => absurd head (by simp))
        simpa using word.1
    | cons first more =>
        simp only [Delimiter.closing, List.cons_append, List.cons.injEq] at closingEq
        exact absurd (by simp [← closingEq.1]) plain
  · refine (Text.span_word solid ?_).1
    intro char head
    cases more with
    | nil => simp at head
    | cons first more =>
        obtain rfl : first = char := by simpa using head
        rw [← List.append_assoc] at ends
        exact isBlank_of_isWordEnd ends closed.of_append

theorem after_untilBlank (content rest : List Char) :
    Text.after (Text.untilBlank content) (content ++ rest) =
      some (Text.fromBlank content ++ rest) := by
  have split : content = Text.untilBlank content ++ Text.fromBlank content :=
    List.takeWhile_append_dropWhile.symm
  conv in content ++ _ => rw [split]
  rw [List.append_assoc, Text.after_append]

theorem isWordEnd_fromBlank (content rest : List Char) :
    isWordEnd (Text.fromBlank content ++ (Delimiter.block.closing ++ rest)) = true := by
  cases remainder : Text.fromBlank content with
  | nil => rfl
  | cons first more =>
      have blank : Text.isBlank first = true := by
        have stopped := List.head?_dropWhile_not (fun char => !Text.isBlank char) content
        rw [show content.dropWhile (fun char => !Text.isBlank char) = first :: more from
          remainder] at stopped
        simpa using stopped
      simp [isWordEnd, blank]

/-- A tag begins with a word if this is the first word of its inside. -/
theorem beginsWith_eq_true_iff {word inside content rest : List Char}
    (solid : ∀ char ∈ word, Text.isBlank char = false) (plain : '%' ∉ word)
    (found : Text.cut Delimiter.block.closing inside = some (content, rest)) :
    beginsWith word inside = true ↔ Text.firstWord content = word := by
  obtain ⟨rfl, closed⟩ := Text.cut_eq_some_iff.1 found
  have start : Text.trimStart (content ++ Delimiter.block.closing ++ rest) =
      Text.trimStart content ++ (Delimiter.block.closing ++ rest) := by
    rw [List.append_assoc]
    exact Text.trimStart_append_cons (by decide) content ('}' :: rest)
  have closedStart : Text.ClosedBy Delimiter.block.closing (Text.trimStart content) := by
    rw [← Text.leadingBlanks_append_trimStart content] at closed
    exact closed.of_append
  simp only [beginsWith, start, Text.firstWord]
  constructor
  · intro begins
    split at begins
    · cases begins
    · next remainder here => exact untilBlank_eq_of_after solid plain closedStart here begins
  · rintro rfl
    rw [after_untilBlank]
    exact isWordEnd_fromBlank (Text.trimStart content) rest

/-- Whether a whole tag begins a text depends on the text up to the end of a tag only. -/
theorem headWord?_append_enclose (char : Char) (body closing rest : List Char) :
    headWord? (char :: (body ++ Piece.enclose .block closing) ++ rest) =
      headWord? (char :: (body ++ Piece.enclose .block closing)) := by
  cases body with
  | nil =>
      unfold headWord? Piece.enclose
      by_cases brace : char = '{'
      · simp [brace, Delimiter.opening, Delimiter.opens?]
      · simp [brace, Delimiter.opening, Delimiter.opens?]
  | cons second body =>
      by_cases opens : char = '{' ∧ second = '%'
      · obtain ⟨rfl, rfl⟩ := opens
        have closes : Delimiter.block.closing <:+: body ++ Piece.enclose .block closing :=
          (List.suffix_append _ _).isInfix.trans (List.suffix_append _ _).isInfix
        cases found : Text.cut Delimiter.block.closing (body ++ Piece.enclose .block closing) with
        | none => exact absurd closes (Text.cut_eq_none_iff.1 found)
        | some pair =>
            obtain ⟨content, remainder⟩ := pair
            simp only [headWord?, List.cons_append, Delimiter.opens?,
              Text.cut_append_right found rest, found, Option.map_some]
      · have plain (more : List Char) : headWord? (char :: second :: more) = none := by
          unfold headWord? Delimiter.opens?
          split <;> grind
        rw [List.cons_append, List.cons_append, List.cons_append, plain, plain]

/-- Puts a character before the body that has been read. -/
def push (char : Char) (found : Option (List Char × List Char × List Char)) :
    Option (List Char × List Char × List Char) :=
  found.map fun (body, closing, rest) => (char :: body, closing, rest)

theorem split?_eq_none {kind : Quotation} {depth : Nat} {text : List Char}
    (absent : ¬ Delimiter.block.closing <:+: text) :
    split? kind depth text = none := by
  cases found : split? kind depth text with
  | none => rfl
  | some parts =>
      obtain ⟨body, closing, rest⟩ := parts
      refine absurd ⟨body ++ Delimiter.block.opening ++ closing, rest, ?_⟩ absent
      rw [eq_append_of_split? found]
      simp only [List.append_assoc]

theorem split?_cons_of_no_tag {kind : Quotation} {depth : Nat} {char : Char} {chars : List Char}
    (plain : headWord? (char :: chars) = none) :
    split? kind depth (char :: chars) = push char (split? kind depth chars) := by
  unfold headWord? at plain
  simp only [split?]
  split
  · next inside opened =>
      rw [opened] at plain
      simp only [Option.map_eq_none_iff] at plain
      have whole := Delimiter.eq_append_of_opens? opened
      simp only [Delimiter.opening, List.cons_append, List.nil_append, List.cons.injEq] at whole
      have missing (next : Nat) : split? kind next chars = none := by
        rw [whole.2]
        simp [split?, Delimiter.opens?, split?_eq_none (Text.cut_eq_none_iff.1 plain)]
      simp [plain, missing, push]
  · rfl

/-- A text begins with the first word of a tag where a tag opens and is terminated. -/
theorem exists_cut_of_headWord? {char : Char} {chars word : List Char}
    (starts : headWord? (char :: chars) = some word) :
    ∃ content rest, Delimiter.opens? (char :: chars) = some (.block, chars.tail) ∧
      Text.cut Delimiter.block.closing chars.tail = some (content, rest) ∧
      Text.firstWord content = word := by
  unfold headWord? at starts
  split at starts
  · next inside opened =>
      have whole := Delimiter.eq_append_of_opens? opened
      simp only [Delimiter.opening, List.cons_append, List.nil_append, List.cons.injEq] at whole
      obtain rfl : chars.tail = inside := by rw [whole.2, List.tail_cons]
      obtain ⟨⟨content, rest⟩, found, same⟩ := Option.map_eq_some_iff.1 starts
      exact ⟨content, rest, opened, found, same⟩
  · cases starts

theorem split?_cons_of_tag {kind : Quotation} {depth : Nat} {char : Char}
    {chars word : List Char} (starts : headWord? (char :: chars) = some word) :
    split? kind depth (char :: chars) =
      match kind.depthAfter depth word with
      | none =>
          (Text.cut Delimiter.block.closing chars.tail).map fun (closing, rest) =>
            ([], closing, rest)
      | some next => push char (split? kind next chars) := by
  obtain ⟨content, rest, opened, found, rfl⟩ := exists_cut_of_headWord? starts
  have closes := beginsWith_eq_true_iff (fun _ => isBlank_of_mem_closer)
    (percent_not_mem_closer kind) found
  have opens := beginsWith_eq_true_iff (fun _ => isBlank_of_mem_opener)
    (percent_not_mem_opener kind) found
  rw [split?, opened]
  simp only [closes, opens, depthAfter]
  by_cases closing : Text.firstWord content = kind.closer
  · cases depth with
    | zero => simp [closing]
    | succ depth => simp [closing, push]
  · by_cases opening : kind = .comment ∧ Text.firstWord content = kind.opener
    · simp only [if_neg closing, if_pos opening, push]
    · simp only [if_neg closing, if_neg opening, push]

theorem foldlM_tagWords_cons (kind : Quotation) (depth : Nat) (char : Char)
    (body closing rest : List Char) :
    (tagWords (Piece.enclose .block closing) (char :: body)).foldlM kind.depthAfter depth =
      match headWord? (char :: (body ++ Piece.enclose .block closing ++ rest)) with
      | none => (tagWords (Piece.enclose .block closing) body).foldlM kind.depthAfter depth
      | some word =>
          (kind.depthAfter depth word).bind
            ((tagWords (Piece.enclose .block closing) body).foldlM kind.depthAfter) := by
  rw [← List.cons_append, headWord?_append_enclose, tagWords]
  cases headWord? (char :: (body ++ Piece.enclose .block closing)) with
  | none => simp
  | some word => simp

theorem depthAfter_eq_none {kind : Quotation} {depth : Nat} {word : List Char}
    (closes : kind.depthAfter depth word = none) : word = kind.closer ∧ depth = 0 := by
  unfold depthAfter at closes
  split at closes
  · next same =>
      cases depth with
      | zero => exact ⟨same, rfl⟩
      | succ depth => cases closes
  · split at closes <;> cases closes

/-- A character goes in front of a body, with the tag that it begins if it begins one. -/
theorem Whole.cons {kind : Quotation} {depth next : Nat} {char : Char}
    {chars body closing rest : List Char} (whole : kind.Whole next body closing)
    (source : chars = body ++ Piece.enclose .block closing ++ rest)
    (step : (match headWord? (char :: chars) with
      | none => some depth
      | some word => kind.depthAfter depth word) = some next) :
    kind.Whole depth (char :: body) closing := by
  refine ⟨whole.closed, whole.word, ?_⟩
  rw [foldlM_tagWords_cons _ _ _ _ _ rest, ← source]
  split at step
  · next plain =>
      cases step
      exact whole.depth_eq
  · next word starts =>
      rw [step]
      exact whole.depth_eq

/-- The body that is found ends at the first tag that closes the quotation. -/
theorem whole_of_split? {kind : Quotation} {depth : Nat} {text body closing rest : List Char}
    (found : split? kind depth text = some (body, closing, rest)) :
    kind.Whole depth body closing := by
  induction text generalizing depth body with
  | nil => simp [split?] at found
  | cons char chars ih =>
      cases starts : headWord? (char :: chars) with
      | none =>
          rw [split?_cons_of_no_tag starts, push] at found
          simp only [Option.map_eq_some_iff, Prod.mk.injEq, Prod.exists] at found
          obtain ⟨inner, _, _, later, rfl, rfl, rfl⟩ := found
          exact (ih later).cons (eq_append_of_split? later) (by rw [starts])
      | some word =>
          rw [split?_cons_of_tag starts] at found
          cases step : kind.depthAfter depth word with
          | some next =>
              simp only [step, push, Option.map_eq_some_iff, Prod.mk.injEq, Prod.exists] at found
              obtain ⟨inner, _, _, later, rfl, rfl, rfl⟩ := found
              exact (ih later).cons (eq_append_of_split? later) (by rw [starts]; exact step)
          | none =>
              simp only [step, Option.map_eq_some_iff, Prod.mk.injEq, Prod.exists] at found
              obtain ⟨inside, _, cutAt, rfl, rfl, rfl⟩ := found
              obtain ⟨content, remainder, -, contentAt, wordEq⟩ := exists_cut_of_headWord? starts
              obtain rfl : content = inside := by simp_all
              obtain ⟨closes, rfl⟩ := depthAfter_eq_none step
              exact ⟨(Text.cut_eq_some_iff.1 contentAt).2, wordEq.trans closes, rfl⟩

theorem split?_of_whole {kind : Quotation} {depth : Nat} {body closing : List Char}
    (whole : kind.Whole depth body closing) (rest : List Char) :
    split? kind depth (body ++ Piece.enclose .block closing ++ rest) =
      some (body, closing, rest) := by
  obtain ⟨closed, wordEq, depthEq⟩ := whole
  induction body generalizing depth with
  | nil =>
      obtain rfl : depth = 0 := by simpa [tagWords] using depthEq
      have cutAt := closed.cut rest
      have starts : headWord? ([] ++ Piece.enclose .block closing ++ rest) =
          some kind.closer := by
        simp only [headWord?, Piece.enclose, Delimiter.opening, List.nil_append, List.cons_append,
          Delimiter.opens?, cutAt, Option.map_some, wordEq]
      simp only [Piece.enclose, Delimiter.opening, List.nil_append, List.cons_append] at starts ⊢
      rw [split?_cons_of_tag starts, List.tail_cons, cutAt]
      simp [depthAfter]
  | cons char body ih =>
      rw [foldlM_tagWords_cons _ _ _ _ _ rest] at depthEq
      rw [List.cons_append, List.cons_append]
      split at depthEq
      · next plain =>
          rw [split?_cons_of_no_tag plain, ih depthEq]
          rfl
      · next word starts =>
          obtain ⟨next, step, later⟩ := Option.bind_eq_some_iff.1 depthEq
          rw [split?_cons_of_tag starts, step]
          simp only [ih later]
          rfl

/-- Reading a quotation finds its body and its closing tag, whatever follows them. -/
theorem split?_eq_some_iff {kind : Quotation} {depth : Nat} {text body closing rest : List Char} :
    split? kind depth text = some (body, closing, rest) ↔
      text = body ++ Piece.enclose .block closing ++ rest ∧ kind.Whole depth body closing := by
  constructor
  · intro found
    exact ⟨eq_append_of_split? found, whole_of_split? found⟩
  · rintro ⟨rfl, whole⟩
    exact split?_of_whole whole rest

end Quotation

end Stencil
