import Stencil.Proofs.Piece.Scanning
import Stencil.Proofs.Text.Slice

/-!
# Searching by byte positions

Where delimiters and the bodies of quotations stand can also be found by byte
positions.  What stands between two of them is taken out of the source, which
fails outside of the source and inside of a character.  Neither ever happens, the
search comes to an end, and what it finds is the same.
-/

namespace Stencil

namespace Text

/-- The text from a byte position on, if this stands between characters. -/
def from? (text : List Char) (position : Nat) : Option (List Char) :=
  (takeWidth position text).map fun before => text.drop before.length

/-- The part of a text from one byte position to another one, which may not be before it. -/
def between? (text : List Char) (start stop : Nat) : Option (List Char) :=
  if start ≤ stop then slice? text start stop else none

/-- The byte position at which a needle first occurs. -/
def find? (needle text : List Char) : Option Nat :=
  (cut needle text).map fun (before, _) => width before

/-- A length without a part of it, if this is not longer. -/
def less? (whole part : Nat) : Option Nat :=
  if part ≤ whole then some (whole - part) else none

theorem from?_width (before rest : List Char) :
    from? (before ++ rest) (width before) = some rest := by
  rw [from?, takeWidth_width_append, Option.map_some, List.drop_left]

theorem between?_width (before inner after : List Char) :
    between? (before ++ inner ++ after) (width before) (width (before ++ inner)) =
      some inner := by
  rw [width_append, between?, if_pos (Nat.le_add_right _ _), slice?_append]

/-- What a delimiter closes is taken up to the delimiter. -/
theorem between?_closed (before content closing rest : List Char) :
    between? (before ++ (content ++ closing ++ rest)) (width before)
        (width before + width content) = some content := by
  have slice := between?_width before content (closing ++ rest)
  rwa [List.append_assoc before, ← List.append_assoc content, width_append] at slice

/-- No slice inside of a character, beyond the text or backwards. -/
example : from? ['a', 'é'] 2 = none ∧ between? ['a', 'é'] 0 4 = none ∧
    between? ['a', 'é'] 1 0 = none := by
  decide

theorem find?_of_cut {needle text before rest : List Char}
    (found : cut needle text = some (before, rest)) : find? needle text = some (width before) := by
  rw [find?, found, Option.map_some]

theorem find?_eq_none {needle text : List Char} (missing : cut needle text = none) :
    find? needle text = none := by
  rw [find?, missing, Option.map_none]

theorem find?_cons (needle : List Char) (char : Char) (chars : List Char) :
    find? needle (char :: chars) =
      if (after needle (char :: chars)).isSome then some 0
      else (find? needle chars).map (char.utf8Size + ·) := by
  rw [find?, cut]
  cases after needle (char :: chars) with
  | some rest => rfl
  | none => simp [find?, Function.comp_def]

/-- Where blanks are left out, the text that remains is not longer. -/
theorem less?_trimStart (text : List Char) :
    less? (width text) (width (trimStart text)) = some (width text - width (trimStart text)) := by
  have whole := congrArg width (leadingBlanks_append_trimStart text)
  rw [width_append] at whole
  exact if_pos (by omega)

/-- A needle that is first behind a text does not begin where the text does. -/
theorem ClosedBy.not_prefix {needle front : List Char} (closed : ClosedBy needle front)
    (nonempty : front ≠ []) (rest : List Char) : ¬ needle <+: front ++ needle ++ rest := by
  intro opens
  obtain ⟨later, same⟩ : needle <+: front ++ needle :=
    List.prefix_of_prefix_length_le opens (List.prefix_append _ rest) (by simp)
  obtain rfl := closed [] later (by simpa using same.symm)
  exact nonempty (by simpa using same)

end Text

/-! ## The first delimiter -/

namespace Delimiter

/-- The byte position of the first delimiter that opens something. -/
def find? (text : List Char) : Option Nat :=
  Option.merge min (Text.find? output.opening text) (Text.find? block.opening text)

theorem opens?_eq_none_iff_after {text : List Char} :
    opens? text = none ↔
      Text.after output.opening text = none ∧ Text.after block.opening text = none := by
  simp only [opens?_eq_none_iff, Text.after_eq_none_iff]
  constructor
  · exact fun plain => ⟨plain .output, plain .block⟩
  · rintro ⟨noOutput, noBlock⟩ (_ | _) <;> assumption

theorem find?_cons (char : Char) (chars : List Char) :
    find? (char :: chars) =
      if (opens? (char :: chars)).isSome then some 0
      else (find? chars).map (char.utf8Size + ·) := by
  have zero (other : Option Nat) :
      Option.merge min (some 0) other = some 0 ∧ Option.merge min other (some 0) = some 0 := by
    cases other <;> simp
  rw [find?, Text.find?_cons, Text.find?_cons]
  cases opened : opens? (char :: chars) with
  | none =>
      obtain ⟨noOutput, noBlock⟩ := opens?_eq_none_iff_after.1 opened
      rw [noOutput, noBlock, find?]
      cases Text.find? output.opening chars <;> cases Text.find? block.opening chars <;>
        simp [Nat.add_min_add_left]
  | some pair =>
      obtain ⟨delimiter, rest⟩ := pair
      rw [eq_append_of_opens? opened]
      cases delimiter <;> simp [zero]

/-- The first delimiter stands behind the text run that the text begins with. -/
theorem find?_eq (text : List Char) :
    find? text =
      if (Piece.spanText text).2.isEmpty then none
      else some (Text.width (Piece.spanText text).1) := by
  induction text with
  | nil => rfl
  | cons char chars ih =>
      rw [find?_cons, Piece.spanText]
      cases opens? (char :: chars) with
      | some opened => simp
      | none =>
          rw [ih]
          cases (Piece.spanText chars).2.isEmpty <;> simp

end Delimiter

/-! ## The body of a quotation -/

namespace Quotation

/--
The body of a quotation, which is known to begin at `start`, and the byte position
behind its closing tag.  The body is searched from `passed` on for a number of tags,
and `depth` counts the quotations that are open there.
-/
def bodyAt? (source : List Char) (kind : Quotation) (start : Nat) :
    (steps passed depth : Nat) → Option (Option (List Char × Nat))
  | 0, _, _ => none
  | steps + 1, passed, depth => do
      match Text.find? Delimiter.block.opening (← Text.from? source passed) with
      | none => return none
      | some distance =>
          let tag := passed + distance
          let inside := tag + Text.width Delimiter.block.opening
          match Text.find? Delimiter.block.closing (← Text.from? source inside) with
          | none => bodyAt? source kind start steps inside depth
          | some length =>
              let content ← Text.between? source inside (inside + length)
              let word := Text.firstWord (Text.trim content)
              if kind = .comment ∧ word = kind.opener then
                bodyAt? source kind start steps inside (depth + 1)
              else if word = kind.closer then
                if depth = 1 then
                  let body ← Text.between? source start tag
                  return some (body, inside + length + Text.width Delimiter.block.closing)
                else
                  bodyAt? source kind start steps inside (depth - 1)
              else
                bodyAt? source kind start steps inside depth

/-- Puts a text before the body that has been read. -/
def prepend (front : List Char) (found : Option (List Char × List Char × List Char)) :
    Option (List Char × List Char × List Char) :=
  found.map fun (body, closing, rest) => (front ++ body, closing, rest)

/-- The body behind what was read of it before, and the position behind the closing tag. -/
def locate (before passed : List Char) :
    List Char × List Char × List Char → List Char × Nat
  | (body, closing, _) =>
      (passed ++ body, Text.width (before ++ passed ++ body ++ Piece.enclose .block closing))

variable {kind : Quotation} {depth : Nat} {front text : List Char}

theorem push_prepend (char : Char) (found : Option (List Char × List Char × List Char)) :
    push char (prepend front found) = prepend (char :: front) found := by
  cases found <;> rfl

theorem map_locate_prepend (before passed : List Char)
    (found : Option (List Char × List Char × List Char)) :
    (prepend front found).map (locate before passed) =
      found.map (locate before (passed ++ front)) := by
  cases found <;> simp [prepend, locate]

theorem split?_eq_none_of_no_opening (absent : ¬ Delimiter.block.opening <:+: text) :
    split? kind depth text = none := by
  cases found : split? kind depth text with
  | none => rfl
  | some parts =>
      obtain ⟨body, closing, rest⟩ := parts
      refine absurd ⟨body, closing ++ Delimiter.block.closing ++ rest, ?_⟩ absent
      rw [eq_append_of_split? found]
      simp only [List.append_assoc]

theorem headWord?_opening (text : List Char) :
    headWord? (Delimiter.block.opening ++ text) =
      (Text.cut Delimiter.block.closing text).map fun (content, _) => Text.firstWord content := by
  rw [headWord?, Delimiter.opens?_append]

theorem headWord?_of_no_opening (plain : ¬ Delimiter.block.opening <+: text) :
    headWord? text = none := by
  unfold headWord?
  split
  · next inside opened => exact absurd ⟨inside, (Delimiter.eq_append_of_opens? opened).symm⟩ plain
  · rfl

/-- No tag begins in front of the first delimiter. -/
theorem split?_append (closed : Text.ClosedBy Delimiter.block.opening front) :
    split? kind depth (front ++ Delimiter.block.opening ++ text) =
      prepend front (split? kind depth (Delimiter.block.opening ++ text)) := by
  induction front with
  | nil => simp [prepend]
  | cons char front ih =>
      have plain := headWord?_of_no_opening (closed.not_prefix (List.cons_ne_nil char front) text)
      have whole : Text.ClosedBy Delimiter.block.opening ([char] ++ front) := closed
      rw [List.cons_append, List.cons_append] at plain ⊢
      rw [split?_cons_of_no_tag plain, ih whole.of_append, push_prepend]

/-- What a body is in front of the next delimiter, by the tag that begins there if one does. -/
theorem split?_append_opening (closed : Text.ClosedBy Delimiter.block.opening front) :
    split? kind depth (front ++ Delimiter.block.opening ++ text) =
      match Text.cut Delimiter.block.closing text with
      | none => prepend (front ++ Delimiter.block.opening) (split? kind depth text)
      | some (content, behind) =>
          match kind.depthAfter depth (Text.firstWord content) with
          | none => some (front, content, behind)
          | some next => prepend (front ++ Delimiter.block.opening) (split? kind next text) := by
  -- The second character of the delimiter does not begin another one.
  have percent (depth : Nat) : prepend front (push '{' (split? kind depth ('%' :: text))) =
      prepend (front ++ Delimiter.block.opening) (split? kind depth text) := by
    rw [split?_cons_of_no_tag (headWord?_of_no_opening (by simp [Delimiter.opening]))]
    cases split? kind depth text <;> simp [prepend, push, Delimiter.opening]
  have starts := headWord?_opening text
  rw [split?_append closed]
  simp only [Delimiter.opening, List.cons_append, List.nil_append] at starts percent ⊢
  cases found : Text.cut Delimiter.block.closing text with
  | none =>
      rw [found, Option.map_none] at starts
      rw [split?_cons_of_no_tag starts]
      exact percent depth
  | some parts =>
      obtain ⟨content, behind⟩ := parts
      rw [found, Option.map_some] at starts
      rw [split?_cons_of_tag starts]
      cases step : kind.depthAfter depth (Text.firstWord content) with
      | none => simp [found, prepend, step]
      | some next => simpa only [step] using percent next

/-- The search counts the quotation itself, and looks for the words in the other order. -/
theorem ite_eq_depthAfter {α : Type} (kind : Quotation) (depth : Nat) (word : List Char)
    (finish : α) (further : Nat → α) :
    (if kind = .comment ∧ word = kind.opener then further (depth + 1 + 1)
      else if word = kind.closer then
        if depth + 1 = 1 then finish else further (depth + 1 - 1)
      else further (depth + 1)) =
      match kind.depthAfter depth word with
      | none => finish
      | some next => further (next + 1) := by
  have different : kind.opener ≠ kind.closer := by cases kind <;> decide
  unfold depthAfter
  by_cases closes : word = kind.closer
  · cases depth <;> simp [closes, different.symm]
  · by_cases opens : kind = .comment ∧ word = kind.opener
    · simp only [if_pos opens, if_neg closes]
    · simp only [if_neg opens, if_neg closes]

/-- What the search for a body does at the next delimiter, from a part of the body on. -/
theorem bodyAt?_append (before passed : List Char) (steps : Nat)
    (closed : Text.ClosedBy Delimiter.block.opening front) :
    let read := before ++ passed ++ front
    let source := read ++ Delimiter.block.opening ++ text
    let further (depth : Nat) := bodyAt? source kind (Text.width before) steps
      (Text.width (read ++ Delimiter.block.opening)) depth
    bodyAt? source kind (Text.width before) (steps + 1) (Text.width (before ++ passed))
        (depth + 1) =
      match Text.cut Delimiter.block.closing text with
      | none => further (depth + 1)
      | some (content, _) =>
          match kind.depthAfter depth (Text.firstWord content) with
          | none => some (some (passed ++ front, Text.width (read ++ Piece.enclose .block content)))
          | some next => further (next + 1) := by
  intro read source further
  have here := Text.from?_width (before ++ passed) (front ++ Delimiter.block.opening ++ text)
  have ahead := Text.from?_width (read ++ Delimiter.block.opening) text
  have body := Text.between?_width before (passed ++ front) (Delimiter.block.opening ++ text)
  simp only [← List.append_assoc] at here body
  rw [bodyAt?, here]
  simp only [Option.bind_eq_bind, Option.bind_some, Text.find?_of_cut (closed.cut text),
    ← Text.width_append]
  rw [ahead, Option.bind_some]
  cases found : Text.cut Delimiter.block.closing text with
  | none => rw [Text.find?_eq_none found]
  | some parts =>
      obtain ⟨content, behind⟩ := parts
      obtain ⟨rfl, -⟩ := Text.cut_eq_some_iff.1 found
      have last : Text.width (read ++ Delimiter.block.opening) + Text.width content +
          Text.width Delimiter.block.closing =
            Text.width (read ++ Piece.enclose .block content) := by
        simp only [Piece.enclose, Text.width_append]
        omega
      simp only [Text.find?_of_cut found]
      rw [Text.between?_closed, Option.bind_some, Text.firstWord_trim, body, Option.bind_some, last]
      exact ite_eq_depthAfter kind depth _ _ further

/-- The body that is found by byte positions, behind a part of it that was read before. -/
theorem bodyAt?_width {steps : Nat} (before passed : List Char) {rest : List Char}
    (enough : rest.length < steps) :
    bodyAt? (before ++ passed ++ rest) kind (Text.width before) steps
        (Text.width (before ++ passed)) (depth + 1) =
      some ((split? kind depth rest).map (locate before passed)) := by
  -- The part that was read before grows by every delimiter, whether or not a tag begins there.
  induction steps generalizing passed rest depth with
  | zero => omega
  | succ steps ih =>
      cases found : Text.cut Delimiter.block.opening rest with
      | none =>
          rw [bodyAt?, Text.from?_width]
          simp only [Option.bind_eq_bind, Option.bind_some, Text.find?_eq_none found,
            split?_eq_none_of_no_opening (Text.cut_eq_none_iff.1 found)]
          rfl
      | some parts =>
          obtain ⟨front, text⟩ := parts
          obtain ⟨rfl, closed⟩ := Text.cut_eq_some_iff.1 found
          have shorter : text.length < steps := by
            simp only [Delimiter.opening, List.length_append, List.length_cons] at enough
            omega
          have further (next : Nat) :
              bodyAt? (before ++ passed ++ front ++ Delimiter.block.opening ++ text) kind
                  (Text.width before) steps
                  (Text.width (before ++ passed ++ front ++ Delimiter.block.opening)) (next + 1) =
                some ((prepend (front ++ Delimiter.block.opening) (split? kind next text)).map
                  (locate before passed)) := by
            have later := @ih next (passed ++ (front ++ Delimiter.block.opening)) text shorter
            rw [map_locate_prepend, ← later]
            simp only [List.append_assoc]
          have step := @bodyAt?_append kind depth front text before passed steps closed
          simp only [← List.append_assoc] at step ⊢
          rw [step, split?_append_opening closed]
          cases tag : Text.cut Delimiter.block.closing text with
          | none => exact further depth
          | some parts =>
              obtain ⟨content, behind⟩ := parts
              cases step : kind.depthAfter depth (Text.firstWord content) with
              | none => simp [step, locate]
              | some next => simp only [step, further next]

/-- The body that is found by byte positions where it begins. -/
theorem bodyAt?_start (before rest : List Char) :
    bodyAt? (before ++ rest) kind (Text.width before) ((before ++ rest).length + 1)
        (Text.width before) 1 =
      some ((split? kind 0 rest).map (locate before [])) := by
  have enough : rest.length < (before ++ rest).length + 1 := by
    rw [List.length_append]
    omega
  have found := @bodyAt?_width kind 0 _ before [] rest enough
  rwa [List.append_nil] at found

end Quotation

end Stencil
