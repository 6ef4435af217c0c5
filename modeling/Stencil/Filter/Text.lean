import Stencil.Text.Blank
import Stencil.Text.Case
import Stencil.Text.Search
import Stencil.Text.WordCharacter
import Stencil.Value.Text

/-!
# Filters on texts

All of them work on the rendered text of a value, whatever its kind.
-/

namespace Stencil

namespace Filter

/-- The text of an argument, unless it is missing or nil. -/
def textOf? : Option Value → Option (List Char)
  | none | some .nil => none
  | some argument => some argument.text

/-- Characters that words are made of: word characters and apostrophes. -/
def isWordPart (char : Char) : Bool :=
  Text.isWordCharacter char || char == '\x27'

/-- Whether just one of two neighbours is a word character.  One of them may be missing. -/
def isWordBoundary (before after : Option Char) : Bool :=
  before.any Text.isWordCharacter != after.any Text.isWordCharacter

/--
The rest of a word behind its last character so far, and what follows the word.
It is as long as it can be with a boundary behind it.
-/
def restOfWord? (last : Char) : List Char → Option (List Char × List Char)
  | [] => if isWordBoundary (some last) none then some ([], []) else none
  | char :: chars =>
      match if isWordPart char then restOfWord? char chars else none with
      | some (rest, behind) => some (char :: rest, behind)
      | none =>
          if isWordBoundary (some last) (some char) then some ([], char :: chars) else none

/-- The first character of a word that begins behind `before`, its rest, and what follows it. -/
def word? (before : Option Char) : List Char → Option (Char × List Char × List Char)
  | [] => none
  | first :: chars =>
      if isWordBoundary before (some first) && isWordPart first then
        (restOfWord? first chars).map (first, ·)
      else
        none

theorem eq_append_of_restOfWord? {last : Char} {text rest behind : List Char}
    (found : restOfWord? last text = some (rest, behind)) : text = rest ++ behind := by
  induction text generalizing last rest behind with
  | nil =>
      simp only [restOfWord?, Option.ite_none_right_eq_some, Option.some.injEq,
        Prod.mk.injEq] at found
      rw [← found.2.1, ← found.2.2, List.append_nil]
  | cons char chars ih =>
      rw [restOfWord?] at found
      split at found
      · next longer tail extended =>
          obtain ⟨-, extended⟩ := Option.ite_none_right_eq_some.1 extended
          simp only [Option.some.injEq, Prod.mk.injEq] at found
          rw [ih extended, ← found.1, ← found.2, List.cons_append]
      · simp only [Option.ite_none_right_eq_some, Option.some.injEq, Prod.mk.injEq] at found
        rw [← found.2.1, ← found.2.2, List.nil_append]

theorem eq_append_of_word? {before : Option Char} {text rest behind : List Char} {first : Char}
    (found : word? before text = some (first, rest, behind)) :
    text = first :: (rest ++ behind) := by
  cases text with
  | nil => cases found
  | cons char chars =>
      simp only [word?, Option.ite_none_right_eq_some, Option.map_eq_some_iff,
        Prod.mk.injEq] at found
      obtain ⟨-, parts, ended, rfl, rfl⟩ := found
      rw [eq_append_of_restOfWord? ended]

/-- Capitalizes the words of a text that stands behind `before`. -/
def capitalizeWords (before : Option Char) (text : List Char) : List Char :=
  match _found : word? before text with
  | some (first, rest, behind) =>
      Text.upper [first] ++ rest ++ capitalizeWords (rest.getLast?.or (some first)) behind
  | none =>
      match text with
      | [] => []
      | char :: chars => char :: capitalizeWords (some char) chars
termination_by text.length
decreasing_by
  · rw [eq_append_of_word? _found]
    simp only [List.length_cons, List.length_append]
    omega
  · simp

/-- The text with the first character of each word in upper case. -/
def capitalize (value : Value) (_ : Option Value) : Value :=
  .ofText (capitalizeWords none value.text)

def upcase (value : Value) (_ : Option Value) : Value :=
  .ofText (Text.upper value.text)

def downcase (value : Value) (_ : Option Value) : Value :=
  .ofText (Text.lower value.text)

def append (value : Value) (argument : Option Value) : Value :=
  .ofText (value.text ++ (textOf? argument).getD [])

def prepend (value : Value) (argument : Option Value) : Value :=
  .ofText ((textOf? argument).getD [] ++ value.text)

/-- The text without the occurrences of the argument. -/
def remove (value : Value) (argument : Option Value) : Value :=
  let needle := (textOf? argument).getD []
  if nonempty : needle ≠ [] then
    .ofText (Text.delete needle nonempty value.text)
  else
    .ofText value.text

def removeFirst (value : Value) (argument : Option Value) : Value :=
  let needle := (textOf? argument).getD []
  if needle = [] then .ofText value.text else .ofText (Text.deleteFirst needle value.text)

/--
The pieces of the text between the occurrences of the argument: its words
without an argument, and its characters if the argument is empty.
-/
def split (value : Value) (argument : Option Value) : Value :=
  let pieces :=
    match textOf? argument with
    | none => Text.words value.text
    | some separator =>
        if nonempty : separator ≠ [] then
          Text.splitOn separator nonempty value.text
        else
          value.text.map ([·])
  .sequence (pieces.map .ofText)

def strip (value : Value) (_ : Option Value) : Value :=
  .ofText (Text.trim value.text)

def lstrip (value : Value) (_ : Option Value) : Value :=
  .ofText (Text.trimStart value.text)

def rstrip (value : Value) (_ : Option Value) : Value :=
  .ofText (Text.trimEnd value.text)

/-- Number of clusters that `truncate` keeps without an argument. -/
def truncateDefault : Nat :=
  50

def ellipsis : List Char :=
  ['.', '.', '.']

/-- The first clusters of a text, `length` in all, the last three of them an ellipsis if they
fit. -/
def truncateTo (clusters : List Char → List (List Char)) (length : Nat) (text : List Char) :
    List Char :=
  let pieces := clusters text
  if pieces.length ≤ length then
    text
  else if length ≤ ellipsis.length then
    (pieces.take length).flatten
  else
    (pieces.take (length - ellipsis.length)).flatten ++ ellipsis

/-- The text cut to a number of clusters, the ellipsis included. -/
def truncate (clusters : List Char → List (List Char)) (value : Value)
    (argument : Option Value) : Value :=
  let length :=
    match argument.bind Value.signed? with
    | some length => length.toNat
    | none => truncateDefault
  .ofText (truncateTo clusters length value.text)

/-- What follows the end of a comment, which has to stand on the line on which the text begins. -/
def afterCommentEnd? : List Char → Option (List Char)
  | [] => none
  | char :: chars =>
      match Text.after ['-', '-', '>'] (char :: chars) with
      | some rest => some rest
      | none => if char = '\n' then none else afterCommentEnd? chars

theorem afterCommentEnd?_length {text rest : List Char}
    (found : afterCommentEnd? text = some rest) :
    rest.length < text.length := by
  induction text with
  | nil => simp [afterCommentEnd?] at found
  | cons char chars ih =>
      simp only [afterCommentEnd?] at found
      split at found
      · next tail ended =>
          have parts := congrArg List.length (Text.eq_append_of_after ended)
          simp only [Option.some.injEq] at found
          subst found
          simp only [List.length_append, List.length_cons, List.length_nil] at parts
          simp only [List.length_cons]
          omega
      · split at found
        · simp at found
        · have shorter := ih found
          simp only [List.length_cons]
          omega

def afterComment? (text : List Char) : Option (List Char) :=
  (Text.after ['<', '!', '-', '-'] text).bind afterCommentEnd?

/-- What follows a markup tag that begins a text: everything up to the next closing bracket. -/
def afterMarkup? (text : List Char) : Option (List Char) :=
  match Text.after ['<'] text with
  | none => none
  | some body => (Text.cut ['>'] body).map Prod.snd

/-- What follows a comment or a markup tag that begins a text. -/
def afterTag? (text : List Char) : Option (List Char) :=
  (afterComment? text).or (afterMarkup? text)

theorem afterTag?_length {text rest : List Char} (found : afterTag? text = some rest) :
    rest.length < text.length := by
  simp only [afterTag?, Option.or_eq_some_iff] at found
  rcases found with found | ⟨_, found⟩
  · simp only [afterComment?, Option.bind_eq_some_iff] at found
    obtain ⟨body, opened, ended⟩ := found
    have parts := congrArg List.length (Text.eq_append_of_after opened)
    have shorter := afterCommentEnd?_length ended
    simp only [List.length_append] at parts
    omega
  · simp only [afterMarkup?] at found
    split at found
    · simp at found
    · next body opened =>
        simp only [Option.map_eq_some_iff, Prod.exists] at found
        obtain ⟨content, tail, cutAt, rfl⟩ := found
        have parts := congrArg List.length (Text.eq_append_of_after opened)
        have shorter := Text.length_of_cut cutAt
        simp only [List.length_append, List.length_cons, List.length_nil] at parts shorter
        omega

/--
A text without its comments and markup tags.  Behind an opening bracket that
begins no tag there is no closing bracket, and so no tag either.
-/
def stripTags (text : List Char) : List Char :=
  match _found : afterTag? text with
  | some rest => stripTags rest
  | none =>
      match text with
      | [] => []
      | char :: chars => if char = '<' then char :: chars else char :: stripTags chars
termination_by text.length
decreasing_by
  · exact afterTag?_length _found
  · simp

def stripHtml (value : Value) (_ : Option Value) : Value :=
  .ofText (stripTags value.text)

def markupBreak : List Char :=
  ['<', 'b', 'r', ' ', '/', '>', '\n']

/-- A text with its line ends replaced by line breaks in markup. -/
def breakLines : List Char → List Char
  | '\r' :: '\n' :: chars => markupBreak ++ breakLines chars
  | '\n' :: chars => markupBreak ++ breakLines chars
  | char :: chars => char :: breakLines chars
  | [] => []

def newlineToBr (value : Value) (_ : Option Value) : Value :=
  .ofText (breakLines value.text)

/-- Bytes that stand for themselves in an address: those of letters, digits and four signs. -/
def isUnreserved (byte : UInt8) : Bool :=
  let char := Char.ofUInt8 byte
  char.isAlphanum || char == '-' || char == '_' || char == '.' || char == '~'

/-- A percent sign and the two digits of a byte, in upper case. -/
def percentByte (byte : UInt8) : List Char :=
  let digit (value : Nat) := (Nat.digitChar value).toUpper
  ['%', digit (byte.toNat / 16), digit (byte.toNat % 16)]

/-- A byte in an address: its character, if it stands for itself. -/
def encodeByte (byte : UInt8) : List Char :=
  if isUnreserved byte then [Char.ofUInt8 byte] else percentByte byte

/-- The text in the form that addresses allow, byte by byte. -/
def urlEncode (value : Value) (_ : Option Value) : Value :=
  .ofText ((value.text.flatMap String.utf8EncodeChar).flatMap encodeByte)

end Filter

end Stencil
