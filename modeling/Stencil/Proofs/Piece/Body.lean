import Stencil.Proofs.Piece.Inside

/-!
# Bodies of quotations

Which bodies a quotation may have can be told from the words behind the block
delimiters in them.  Only words count that stand in the body with what ends
them: a word that the body breaks off goes on with the delimiter of the closing
tag, and so it is none of the words that open or close a quotation, although the
tag that it begins borrows the end of the closing tag.
-/

namespace Stencil

namespace Quotation

/-- The text up to the next blank or the next end of a tag, if there is one. -/
def wholeWord? : List Char → Option (List Char)
  | [] => none
  | char :: chars =>
      if isWordEnd (char :: chars) then some [] else (wholeWord? chars).map (char :: ·)

/-- The first word of a tag with which a text begins, if the text goes on behind the word. -/
def firstWord? (text : List Char) : Option (List Char) :=
  match Delimiter.opens? text with
  | some (.block, inside) => wholeWord? (Text.trimStart inside)
  | _ => none

/-- The first words behind the block delimiters of a text, from left to right. -/
def firstWords : List Char → List (List Char)
  | [] => []
  | char :: chars => (firstWord? (char :: chars)).toList ++ firstWords chars

/-- The same words and, where the text breaks one off, as much of it as stands in the text. -/
def begunWords : List Char → List (List Char)
  | [] => []
  | char :: chars =>
      let word :=
        match Delimiter.opens? (char :: chars) with
        | some (.block, inside) =>
            let begun := Text.trimStart inside
            [(wholeWord? begun).getD begun]
        | _ => []
      word ++ begunWords chars

/-! ## Words -/

section

variable {char : Char} {chars : List Char} (plain : ¬ (char = '{' ∧ chars.head? = some '%'))

include plain

theorem opens?_ne_block (inside : List Char) :
    Delimiter.opens? (char :: chars) ≠ some (.block, inside) := by
  intro opened
  have whole := Delimiter.eq_append_of_opens? opened
  simp only [Delimiter.opening, List.cons_append, List.nil_append, List.cons.injEq] at whole
  exact plain ⟨whole.1, by rw [whole.2, List.head?_cons]⟩

theorem headWord?_eq_none : headWord? (char :: chars) = none := by
  unfold headWord?
  split
  · next inside opened => exact absurd opened (opens?_ne_block plain inside)
  · rfl

theorem firstWord?_eq_none : firstWord? (char :: chars) = none := by
  unfold firstWord?
  split
  · next inside opened => exact absurd opened (opens?_ne_block plain inside)
  · rfl

end

/-- A word ends where a blank or the end of a tag stands. -/
theorem isWordEnd_cons_iff {char : Char} {chars : List Char} :
    isWordEnd (char :: chars) = true ↔
      Text.isBlank char = true ∨ Delimiter.block.closing <+: char :: chars := by
  have closes := @Text.after_eq_none_iff Delimiter.block.closing (char :: chars)
  simp only [isWordEnd, Bool.or_eq_true]
  refine or_congr_right ?_
  rw [← not_iff_not, ← closes, Option.isSome_iff_ne_none, not_not]

theorem isWordEnd_cons_eq_false {char : Char} {chars : List Char}
    (solid : Text.isBlank char = false) (plain : char ≠ '%') :
    isWordEnd (char :: chars) = false := by
  rw [Bool.eq_false_iff, ne_eq, isWordEnd_cons_iff]
  rintro (blank | ⟨rest, closes⟩)
  · simp [solid] at blank
  · exact plain (List.cons.inj closes).1.symm

/-- More text behind a brace neither ends a word nor keeps it from ending. -/
theorem isWordEnd_append_brace {char : Char} {chars more : List Char} :
    isWordEnd (char :: chars ++ '{' :: more) = true ↔ isWordEnd (char :: chars) = true := by
  rw [List.cons_append, isWordEnd_cons_iff, isWordEnd_cons_iff]
  refine or_congr_right ⟨?_, ?_⟩
  · intro closes
    cases chars with
    | nil =>
        obtain ⟨rest, same⟩ := closes
        simp [Delimiter.closing] at same
    | cons next chars =>
        exact List.prefix_of_prefix_length_le closes
          (List.prefix_append (char :: next :: chars) ('{' :: more)) (by simp [Delimiter.closing])
  · intro closes
    exact closes.trans (List.prefix_append (char :: chars) ('{' :: more))

section

variable {word : List Char} (solid : ∀ char ∈ word, Text.isBlank char = false)
  (plain : '%' ∉ word)

include solid plain

theorem wholeWord?_eq_some_iff {text : List Char} :
    wholeWord? text = some word ↔
      ∃ char chars, text = word ++ char :: chars ∧ isWordEnd (char :: chars) = true := by
  induction word generalizing text with
  | nil =>
      cases text with
      | nil => simp [wholeWord?]
      | cons char chars =>
          by_cases ends : isWordEnd (char :: chars) = true
          · simp only [wholeWord?, ends, if_true, List.nil_append, true_iff]
            exact ⟨char, chars, rfl, ends⟩
          · simp [wholeWord?, ends]
  | cons first word ih =>
      obtain ⟨firstSolid, solid⟩ := List.forall_mem_cons.1 solid
      obtain ⟨firstPlain, plain⟩ := not_or.1 (List.mem_cons.not.1 plain)
      have later := @ih solid plain
      cases text with
      | nil => simp [wholeWord?]
      | cons char chars =>
          by_cases same : char = first
          · subst same
            have inside := @isWordEnd_cons_eq_false char chars firstSolid (Ne.symm firstPlain)
            simp [wholeWord?, inside, later]
          · simp only [wholeWord?, List.cons_append, List.cons.injEq, same, false_and,
              exists_false, iff_false]
            split <;> simp [same]

/-- A brace behind a text neither makes a word nor takes one away. -/
theorem wholeWord?_append_brace_iff (unbraced : '{' ∉ word) {text more : List Char} :
    wholeWord? (text ++ '{' :: more) = some word ↔ wholeWord? text = some word := by
  rw [wholeWord?_eq_some_iff solid plain, wholeWord?_eq_some_iff solid plain]
  have unended : isWordEnd ('{' :: more) ≠ true := by
    simp [isWordEnd_cons_eq_false (by decide : Text.isBlank '{' = false)]
  constructor
  · rintro ⟨char, chars, same, ends⟩
    rcases List.append_eq_append_iff.1 same with ⟨between, rfl, rest⟩ | ⟨between, rfl, rest⟩
    · cases between with
      | nil =>
          obtain ⟨rfl, rfl⟩ := List.cons.inj rest
          exact absurd ends unended
      | cons first between =>
          obtain rfl := (List.cons.inj rest).1
          exact absurd (by simp) unbraced
    · cases between with
      | nil =>
          obtain ⟨rfl, rfl⟩ := List.cons.inj rest
          exact absurd ends unended
      | cons first between =>
          rw [rest] at ends
          exact ⟨first, between, rfl, isWordEnd_append_brace.1 ends⟩
  · rintro ⟨char, chars, rfl, ends⟩
    exact ⟨char, chars ++ '{' :: more, by simp, isWordEnd_append_brace.2 ends⟩

/-- A tag whose inside goes on with a brace begins with the words that are whole before it. -/
theorem beginsWith_append_brace_iff (unbraced : '{' ∉ word) {inside more : List Char} :
    beginsWith word (inside ++ '{' :: more) = true ↔
      wholeWord? (Text.trimStart inside) = some word := by
  rw [← wholeWord?_append_brace_iff solid plain unbraced, wholeWord?_eq_some_iff solid plain,
    beginsWith, Text.trimStart_append_cons (by decide)]
  constructor
  · intro begins
    split at begins
    · cases begins
    · next rest here =>
        have whole := Text.eq_append_of_after here
        cases rest with
        | nil =>
            rw [List.append_nil] at whole
            exact absurd (whole ▸ by simp) unbraced
        | cons char chars => exact ⟨char, chars, whole, begins⟩
  · rintro ⟨char, chars, same, ends⟩
    rwa [same, Text.after_append]

/-- What a tag begins with is settled before a brace that follows. -/
theorem firstWord?_append_brace_iff (unbraced : '{' ∉ word) {char : Char}
    {chars more : List Char} :
    firstWord? (char :: (chars ++ '{' :: more)) = some word ↔
      firstWord? (char :: chars) = some word := by
  by_cases block : char = '{' ∧ chars.head? = some '%'
  · obtain ⟨rfl, percent⟩ := block
    obtain ⟨inside, rfl⟩ := List.head?_eq_some_iff.1 percent
    have whole := @wholeWord?_append_brace_iff word solid plain unbraced (Text.trimStart inside) more
    rwa [← Text.trimStart_append_cons (by decide)] at whole
  · have outside : firstWord? (char :: (chars ++ '{' :: more)) = none := by
      refine firstWord?_eq_none fun isBlock => block ⟨isBlock.1, ?_⟩
      cases chars with
      | nil => simp at isBlock
      | cons next chars => exact isBlock.2
    rw [outside, firstWord?_eq_none block]

/-- A tag that begins in a body, before its closing tag, has the first word that is whole there. -/
theorem headWord?_append_enclose_iff (unbraced : '{' ∉ word) {char : Char}
    {chars closing : List Char} :
    headWord? (char :: (chars ++ Piece.enclose .block closing)) = some word ↔
      firstWord? (char :: chars) = some word := by
  by_cases block : char = '{' ∧ chars.head? = some '%'
  · obtain ⟨rfl, percent⟩ := block
    obtain ⟨inside, rfl⟩ := List.head?_eq_some_iff.1 percent
    have closes : Delimiter.block.closing <:+: inside ++ Piece.enclose .block closing :=
      (List.suffix_append _ _).isInfix.trans (List.suffix_append _ _).isInfix
    cases found : Text.cut Delimiter.block.closing (inside ++ Piece.enclose .block closing) with
    | none => exact absurd closes (Text.cut_eq_none_iff.1 found)
    | some pair =>
        obtain ⟨content, rest⟩ := pair
        have begins := beginsWith_eq_true_iff solid plain found
        have whole := @beginsWith_append_brace_iff word solid plain unbraced inside
          ('%' :: closing ++ Delimiter.block.closing)
        simp only [headWord?, firstWord?, List.cons_append, Delimiter.opens?, found,
          Option.map_some, Option.some.injEq, ← begins, ← whole]
        rfl
  · have outside : headWord? (char :: (chars ++ Piece.enclose .block closing)) = none := by
      refine headWord?_eq_none fun isBlock => block ⟨isBlock.1, ?_⟩
      cases chars with
      | nil => simp [Piece.enclose, Delimiter.opening] at isBlock
      | cons next chars => exact isBlock.2
    rw [outside, firstWord?_eq_none block]

end

/-! ## Counting -/

/-- The words that change how many quotations are open in a body. -/
def Counts (kind : Quotation) (word : List Char) : Prop :=
  word = kind.closer ∨ kind = .comment ∧ word = kind.opener

theorem depthAfter_of_not_counts {kind : Quotation} {depth : Nat} {word : List Char}
    (idle : ¬ kind.Counts word) : kind.depthAfter depth word = some depth := by
  obtain ⟨other, another⟩ := not_or.1 idle
  unfold depthAfter
  rw [if_neg other, if_neg another]

section

variable {kind : Quotation} {word : List Char} (counts : kind.Counts word)

include counts

theorem Counts.isBlank_of_mem : ∀ char ∈ word, Text.isBlank char = false := by
  rcases counts with rfl | ⟨-, rfl⟩
  · exact fun _ => isBlank_of_mem_closer
  · exact fun _ => isBlank_of_mem_opener

theorem Counts.percent_not_mem : '%' ∉ word := by
  rcases counts with rfl | ⟨-, rfl⟩
  · exact percent_not_mem_closer kind
  · exact percent_not_mem_opener kind

theorem Counts.brace_not_mem : '{' ∉ word := by
  rcases counts with rfl | ⟨-, rfl⟩ <;> cases kind <;> decide

theorem Counts.headWord?_iff {char : Char} {chars closing : List Char} :
    headWord? (char :: (chars ++ Piece.enclose .block closing)) = some word ↔
      firstWord? (char :: chars) = some word :=
  headWord?_append_enclose_iff counts.isBlank_of_mem counts.percent_not_mem counts.brace_not_mem

theorem Counts.firstWord?_iff {char : Char} {chars more : List Char} :
    firstWord? (char :: (chars ++ '{' :: more)) = some word ↔
      firstWord? (char :: chars) = some word :=
  firstWord?_append_brace_iff counts.isBlank_of_mem counts.percent_not_mem counts.brace_not_mem

end

/-- Two words that may be missing count alike when they are the same wherever one counts. -/
theorem foldlM_toList_congr {kind : Quotation} {first second : Option (List Char)}
    (same : ∀ word, kind.Counts word → (first = some word ↔ second = some word)) (depth : Nat) :
    first.toList.foldlM kind.depthAfter depth = second.toList.foldlM kind.depthAfter depth := by
  by_cases counts : ∃ word, kind.Counts word ∧ first = some word
  · obtain ⟨word, counts, here⟩ := counts
    rw [here, (same word counts).1 here]
  · have idle (other : Option (List Char)) (silent : ∀ word, kind.Counts word → other ≠ some word) :
        other.toList.foldlM kind.depthAfter depth = some depth := by
      cases other with
      | none => rfl
      | some word =>
          have step : kind.depthAfter depth word = some depth :=
            depthAfter_of_not_counts fun counts => silent word counts rfl
          simp [step]
    rw [idle first fun word counting here => counts ⟨word, counting, here⟩,
      idle second fun word counting there => counts ⟨word, counting, (same word counting).2 there⟩]

/-- The words that a body breaks off, or that its closing tag is needed for, do not count. -/
theorem foldlM_tagWords (kind : Quotation) (depth : Nat) (body closing : List Char) :
    (tagWords (Piece.enclose .block closing) body).foldlM kind.depthAfter depth =
      (firstWords body).foldlM kind.depthAfter depth := by
  induction body generalizing depth with
  | nil => rfl
  | cons char body ih =>
      have here := @foldlM_toList_congr kind
        (headWord? (char :: (body ++ Piece.enclose .block closing)))
        (firstWord? (char :: body)) (fun word counts => counts.headWord?_iff) depth
      rw [tagWords, firstWords, List.foldlM_append, List.foldlM_append, here]
      exact congrArg _ (funext ih)

/-- A quotation with a blank on both sides of the insides of its tags. -/
def piece (kind : Quotation) (heading body : List Char) : Piece :=
  .quotation kind (Delimiter.pad heading) body (Delimiter.pad kind.closer)

/-- A quotation is well formed when the words in its body keep it open up to its closing tag. -/
theorem wellFormed_piece {kind : Quotation} {heading body : List Char}
    (free : ¬ Delimiter.block.closing <:+: heading)
    (opens : ofTag? (Delimiter.pad heading) = some kind)
    (counted : (firstWords body).foldlM kind.depthAfter 0 = some 0) :
    (kind.piece heading body).WellFormed := by
  have whole : kind.Whole 0 body (Delimiter.pad kind.closer) :=
    { closed := Delimiter.closedBy_pad (by cases kind <;> decide)
      word := by cases kind <;> decide
      depth_eq := by rw [foldlM_tagWords, counted] }
  exact ⟨Delimiter.closedBy_pad free, opens, whole⟩

/-! ## Raw bodies -/

/--
A text has a tag that closes a quotation: a block delimiter, then blanks, the
closing word, and a blank or the end of the tag.
-/
def ClosedIn (kind : Quotation) (text : List Char) : Prop :=
  ∃ before blanks after, text =
      before ++ Delimiter.block.opening ++ blanks ++ kind.closer ++ after ∧
    (∀ char ∈ blanks, Text.isBlank char = true) ∧
      ((∃ char, after.head? = some char ∧ Text.isBlank char = true) ∨
        Delimiter.block.closing <+: after)

theorem ClosedIn.cons {kind : Quotation} {text : List Char} (closed : kind.ClosedIn text)
    (char : Char) : kind.ClosedIn (char :: text) := by
  obtain ⟨before, blanks, after, rfl, rest⟩ := closed
  exact ⟨char :: before, blanks, after, rfl, rest⟩

theorem closedIn_of_firstWord? {kind : Quotation} {text : List Char}
    (closes : firstWord? text = some kind.closer) : kind.ClosedIn text := by
  unfold firstWord? at closes
  split at closes
  · next inside opened =>
      obtain ⟨char, chars, start, ends⟩ := (wholeWord?_eq_some_iff
        (fun _ => isBlank_of_mem_closer) (percent_not_mem_closer kind)).1 closes
      refine ⟨[], Text.leadingBlanks inside, char :: chars, ?_,
        fun _ => Text.isBlank_of_mem_leadingBlanks, ?_⟩
      · have split := Text.leadingBlanks_append_trimStart inside
        rw [start] at split
        simp only [Delimiter.eq_append_of_opens? opened, List.nil_append, List.append_assoc, split]
      · exact (isWordEnd_cons_iff.1 ends).imp_left fun blank => ⟨char, rfl, blank⟩
  · cases closes

theorem closedIn_of_mem_firstWords {kind : Quotation} {text : List Char}
    (member : kind.closer ∈ firstWords text) : kind.ClosedIn text := by
  induction text with
  | nil => simp [firstWords] at member
  | cons char text ih =>
      rw [firstWords, List.mem_append, Option.mem_toList] at member
      rcases member with here | later
      · exact closedIn_of_firstWord? here
      · exact (ih later).cons char

theorem mem_firstWords_append {word rest : List Char} (before : List Char)
    (member : word ∈ firstWords rest) : word ∈ firstWords (before ++ rest) := by
  induction before with
  | nil => exact member
  | cons char before ih => exact List.mem_append_right _ ih

theorem mem_firstWords_of_closedIn {kind : Quotation} {text : List Char}
    (closed : kind.ClosedIn text) : kind.closer ∈ firstWords text := by
  obtain ⟨before, blanks, after, rfl, blank, ends⟩ := closed
  have goesOn : ∃ char chars, after = char :: chars ∧ isWordEnd (char :: chars) = true := by
    rcases ends with ⟨char, head, space⟩ | closes
    · obtain ⟨chars, rfl⟩ := List.head?_eq_some_iff.1 head
      exact ⟨char, chars, rfl, isWordEnd_cons_iff.2 (.inl space)⟩
    · obtain ⟨rest, rfl⟩ := closes
      exact ⟨_, _, rfl, isWordEnd_cons_iff.2 (.inr (List.prefix_append _ rest))⟩
  obtain ⟨char, chars, rfl, wordEnd⟩ := goesOn
  have trimmed : Text.trimStart (blanks ++ (kind.closer ++ char :: chars)) =
      kind.closer ++ char :: chars :=
    (Text.trimStart_append_of_blank blank _).trans
      (Text.trimStart_cons_of_not_blank (by decide) _)
  have word : wholeWord? (kind.closer ++ char :: chars) = some kind.closer :=
    (wholeWord?_eq_some_iff (fun _ => isBlank_of_mem_closer)
      (percent_not_mem_closer kind)).2 ⟨char, chars, rfl, wordEnd⟩
  have here : firstWord? (Delimiter.block.opening ++ (blanks ++ (kind.closer ++ char :: chars))) =
      some kind.closer := by
    rw [firstWord?, Delimiter.opens?_append]
    simpa only [trimmed] using word
  simp only [List.append_assoc]
  refine mem_firstWords_append before ?_
  exact List.mem_append_left _ (Option.mem_toList.2 here)

instance (kind : Quotation) (text : List Char) : Decidable (kind.ClosedIn text) :=
  decidable_of_iff (kind.closer ∈ firstWords text)
    ⟨closedIn_of_mem_firstWords, mem_firstWords_of_closedIn⟩

theorem foldlM_depthAfter_raw {words : List (List Char)} (free : closer .raw ∉ words)
    (depth : Nat) : words.foldlM (depthAfter .raw) depth = some depth := by
  induction words with
  | nil => rfl
  | cons word words ih =>
      obtain ⟨here, later⟩ := not_or.1 (List.mem_cons.not.1 free)
      have idle : ¬ Counts .raw word := by
        rintro (same | ⟨other, -⟩)
        · exact here same.symm
        · cases other
      rw [List.foldlM_cons, depthAfter_of_not_counts idle]
      exact ih later

/-! ## Comments -/

/--
Words open and close comments in pairs: read from left to right, no more
comments are closed than have been opened, and at the end as many.
-/
structure Balanced (words : List (List Char)) : Prop where
  opened_first : ∀ before, before <+: words →
    before.count (closer .comment) ≤ before.count (opener .comment)
  all_closed : words.count (closer .comment) = words.count (opener .comment)

/-- How many comments are open behind words that never close more than are open. -/
theorem foldlM_depthAfter_comment_iff {words : List (List Char)} {depth last : Nat} :
    words.foldlM (depthAfter .comment) depth = some last ↔
      (∀ before, before <+: words →
        before.count (closer .comment) ≤ depth + before.count (opener .comment)) ∧
      last + words.count (closer .comment) = depth + words.count (opener .comment) := by
  have differ : closer .comment ≠ opener .comment := by decide
  induction words generalizing depth with
  | nil => simp [eq_comm]
  | cons word words ih =>
      have split : (∀ before, before <+: word :: words →
            before.count (closer .comment) ≤ depth + before.count (opener .comment)) ↔
          ∀ before, before <+: words → (word :: before).count (closer .comment) ≤
            depth + (word :: before).count (opener .comment) := by
        constructor
        · intro opened before inside
          exact opened _ (List.cons_prefix_cons.2 ⟨rfl, inside⟩)
        · intro opened before inside
          rcases List.prefix_cons_iff.1 inside with rfl | ⟨rest, rfl, further⟩
          · exact Nat.zero_le _
          · exact opened rest further
      rw [split, List.foldlM_cons]
      by_cases counts : Counts .comment word
      · rcases counts with rfl | ⟨-, rfl⟩
        · simp only [List.count_cons_self, List.count_cons_of_ne differ]
          cases depth with
          | zero =>
              have stuck : depthAfter .comment 0 (closer .comment) = none := by simp [depthAfter]
              rw [stuck]
              refine iff_of_false (by simp) ?_
              rintro ⟨opened, -⟩
              simpa using opened [] List.nil_prefix
          | succ depth =>
              have step : depthAfter .comment (depth + 1) (closer .comment) = some depth := by
                simp [depthAfter]
              rw [step]
              refine ih.trans (and_congr (forall₂_congr fun before inside => ?_) ?_) <;> omega
        · simp only [List.count_cons_self, List.count_cons_of_ne differ.symm]
          have step : depthAfter .comment depth (opener .comment) = some (depth + 1) := by
            simp [depthAfter, differ.symm]
          rw [step]
          refine ih.trans (and_congr (forall₂_congr fun before inside => ?_) ?_) <;> omega
      · obtain ⟨notCloser, notOpener⟩ := not_or.1 counts
        have other : word ≠ opener .comment := fun same => notOpener ⟨rfl, same⟩
        simp only [List.count_cons_of_ne notCloser, List.count_cons_of_ne other]
        rw [depthAfter_of_not_counts counts]
        exact ih

/-- A text with comments in pairs leaves no more comments open than were open before it. -/
theorem Balanced.foldlM_depthAfter {words : List (List Char)} (balanced : Balanced words)
    (depth : Nat) : words.foldlM (depthAfter .comment) depth = some depth := by
  refine foldlM_depthAfter_comment_iff.2 ⟨fun before inside => ?_, by rw [balanced.all_closed]⟩
  exact (balanced.opened_first before inside).trans (Nat.le_add_left _ depth)

theorem balanced_iff {words : List (List Char)} :
    Balanced words ↔ words.foldlM (depthAfter .comment) 0 = some 0 := by
  refine ⟨fun balanced => balanced.foldlM_depthAfter 0, fun folded => ?_⟩
  obtain ⟨opened, closed⟩ := foldlM_depthAfter_comment_iff.1 folded
  simp only [Nat.zero_add] at opened closed
  exact ⟨opened, closed⟩

instance (words : List (List Char)) : Decidable (Balanced words) :=
  decidable_of_iff _ balanced_iff.symm

/-- Words are counted in a text and then in what follows, where a brace keeps them apart. -/
theorem foldlM_firstWords_append_brace (kind : Quotation) (depth : Nat) (text more : List Char) :
    (firstWords (text ++ '{' :: more)).foldlM kind.depthAfter depth =
      (firstWords text).foldlM kind.depthAfter depth >>=
        (firstWords ('{' :: more)).foldlM kind.depthAfter := by
  induction text generalizing depth with
  | nil => rfl
  | cons char text ih =>
      have here := @foldlM_toList_congr kind (firstWord? (char :: (text ++ '{' :: more)))
        (firstWord? (char :: text)) (fun word counts => counts.firstWord?_iff) depth
      rw [List.cons_append, firstWords, firstWords, List.foldlM_append, List.foldlM_append, here,
        bind_assoc]
      exact congrArg _ (funext ih)

end Quotation

end Stencil
