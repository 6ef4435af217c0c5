import Stencil.Located
import Stencil.Text.Blank
import Stencil.Text.Search
import Stencil.Text.Width

/-!
# Pieces of a source

The source of a template is a sequence of pieces: text runs, outputs and tags
between their delimiters, and quotations, whose bodies are not read as
template.  Writing the pieces one after the other gives the source back.
-/

namespace Stencil

/-- The delimiters that open something other than text. -/
inductive Delimiter
  | output
  | block
  deriving DecidableEq, Repr

namespace Delimiter

/-- The text that opens a span. -/
def opening : Delimiter → List Char
  | .output => ['{', '{']
  | .block => ['{', '%']

/-- The text that closes a span. -/
def closing : Delimiter → List Char
  | .output => ['}', '}']
  | .block => ['%', '}']

/-- The delimiter that a text begins with, and what follows it. -/
def opens? : List Char → Option (Delimiter × List Char)
  | '{' :: '{' :: rest => some (.output, rest)
  | '{' :: '%' :: rest => some (.block, rest)
  | _ => none

theorem eq_append_of_opens? {source rest : List Char} {delimiter : Delimiter}
    (found : opens? source = some (delimiter, rest)) :
    source = delimiter.opening ++ rest := by
  unfold opens? at found
  split at found
  · simp only [Option.some.injEq, Prod.mk.injEq] at found
    obtain ⟨rfl, rfl⟩ := found
    rfl
  · simp only [Option.some.injEq, Prod.mk.injEq] at found
    obtain ⟨rfl, rfl⟩ := found
    rfl
  · simp at found

@[simp]
theorem opens?_append (delimiter : Delimiter) (rest : List Char) :
    opens? (delimiter.opening ++ rest) = some (delimiter, rest) := by
  cases delimiter <;> rfl

end Delimiter

/-- The tags whose body is not read as template. -/
inductive Quotation
  /-- The body is text. -/
  | raw
  /-- The body is dropped. -/
  | comment
  deriving DecidableEq, Repr

namespace Quotation

/-- The word that opens a quotation. -/
def opener : Quotation → List Char
  | .raw => ['r', 'a', 'w']
  | .comment => ['c', 'o', 'm', 'm', 'e', 'n', 't']

/-- The word that closes a quotation. -/
def closer (kind : Quotation) : List Char :=
  'e' :: 'n' :: 'd' :: kind.opener

/-- The quotation that a tag opens: a comment may go on after its word, a raw tag may not. -/
def ofTag? (content : List Char) : Option Quotation :=
  if Text.trim content = opener .raw then
    some .raw
  else if Text.firstWord content = opener .comment then
    some .comment
  else
    none

/-- Whether a word ends where a text begins: at a blank, or at the end of the tag. -/
def isWordEnd : List Char → Bool
  | [] => true
  | char :: chars => Text.isBlank char || (Text.after Delimiter.block.closing (char :: chars)).isSome

/-- Whether a tag, given the text after its opening delimiter, begins with a word. -/
def beginsWith (word inside : List Char) : Bool :=
  match Text.after word (Text.trimStart inside) with
  | none => false
  | some rest => isWordEnd rest

/--
Splits the text after the opening tag of a quotation into its body, the inside
of its closing tag and what follows.  Every block delimiter in the body may
begin a tag, whether or not an earlier one is closed before it.  `depth` counts
the comments that are open inside.
-/
def split? (kind : Quotation) : Nat → List Char → Option (List Char × List Char × List Char)
  | _, [] => none
  | depth, char :: chars =>
      let further (depth : Nat) :=
        (split? kind depth chars).map fun (body, closing, rest) => (char :: body, closing, rest)
      match Delimiter.opens? (char :: chars) with
      | some (.block, inside) =>
          if beginsWith kind.closer inside then
            if depth = 0 then
              (Text.cut Delimiter.block.closing inside).map fun (closing, rest) =>
                ([], closing, rest)
            else
              further (depth - 1)
          else if kind = .comment ∧ beginsWith kind.opener inside then
            further (depth + 1)
          else
            further depth
      | _ => further depth

/-- A quotation is its body, its closing tag and what follows. -/
theorem eq_append_of_split? {kind : Quotation} {depth : Nat}
    {text body closing rest : List Char}
    (found : split? kind depth text = some (body, closing, rest)) :
    text = body ++ (Delimiter.block.opening ++ closing ++ Delimiter.block.closing) ++ rest := by
  induction text generalizing depth body with
  | nil => simp [split?] at found
  | cons char chars ih =>
      have further {next : Nat}
          (later : (split? kind next chars).map
            (fun (body, closing, rest) => (char :: body, closing, rest)) =
              some (body, closing, rest)) :
          char :: chars =
            body ++ (Delimiter.block.opening ++ closing ++ Delimiter.block.closing) ++ rest := by
        simp only [Option.map_eq_some_iff, Prod.mk.injEq, Prod.exists] at later
        obtain ⟨inner, _, _, split, rfl, rfl, rfl⟩ := later
        rw [ih split]
        rfl
      simp only [split?] at found
      split at found
      · next inside opened =>
          split at found
          · split at found
            · simp only [Option.map_eq_some_iff, Prod.mk.injEq, Prod.exists] at found
              obtain ⟨_, _, cutAt, rfl, rfl, rfl⟩ := found
              rw [Delimiter.eq_append_of_opens? opened, Text.eq_append_of_cut cutAt]
              simp
            · exact further found
          · split at found <;> exact further found
      · exact further found

end Quotation

inductive Piece
  | text (content : List Char)
  | span (delimiter : Delimiter) (content : List Char)
  | quotation (kind : Quotation) (content body closing : List Char)
  deriving DecidableEq

/-- Why a source has no pieces. -/
inductive ScanFailure
  /-- A delimiter that nothing closes. -/
  | unterminated (delimiter : Delimiter)
  /-- A quotation that nothing closes. -/
  | unclosed (kind : Quotation)
  deriving DecidableEq

namespace Piece

/-- The text between the delimiters of a span, with them. -/
def enclose (delimiter : Delimiter) (content : List Char) : List Char :=
  delimiter.opening ++ content ++ delimiter.closing

/-- The text of a piece in the source. -/
def source : Piece → List Char
  | .text content => content
  | .span delimiter content => enclose delimiter content
  | .quotation _ content body closing =>
      enclose .block content ++ body ++ enclose .block closing

/-- Where the inside of a span begins that starts at `position`: after the blanks. -/
def insidePosition (position : Nat) (content : List Char) : Nat :=
  position + 2 + (Text.width content - Text.width (Text.trimStart content))

/-- The text up to the next delimiter, and what follows. -/
def spanText : List Char → List Char × List Char
  | [] => ([], [])
  | char :: chars =>
      match Delimiter.opens? (char :: chars) with
      | some _ => ([], char :: chars)
      | none => (char :: (spanText chars).1, (spanText chars).2)

theorem spanText_append (text : List Char) :
    (spanText text).1 ++ (spanText text).2 = text := by
  induction text with
  | nil => rfl
  | cons char chars ih =>
      simp only [spanText]
      split <;> simp [ih]

theorem spanText_length_lt {char : Char} {chars : List Char}
    (plain : Delimiter.opens? (char :: chars) = none) :
    (spanText (char :: chars)).2.length < (char :: chars).length := by
  have parts := congrArg List.length (spanText_append chars)
  simp only [List.length_append] at parts
  simp only [spanText, plain, List.length_cons]
  omega

/-- The pieces of a source that starts at `position`. -/
def scan (position : Nat) (source : List Char) : Except (Located ScanFailure) (List Piece) :=
  match _opened : Delimiter.opens? source with
  | some (delimiter, inside) =>
      match _found : Text.cut delimiter.closing inside with
      | none => .error ⟨.unterminated delimiter, position⟩
      | some (content, rest) =>
          match if delimiter = .block then Quotation.ofTag? content else none with
          | none =>
              let piece := Piece.span delimiter content
              (scan (position + Text.width piece.source) rest).map (piece :: ·)
          | some kind =>
              match _body : kind.split? 0 rest with
              | none => .error ⟨.unclosed kind, insidePosition position content⟩
              | some (body, closing, rest) =>
                  let piece := Piece.quotation kind content body closing
                  (scan (position + Text.width piece.source) rest).map (piece :: ·)
  | none =>
      match source with
      | [] => .ok []
      | char :: chars =>
          let piece := Piece.text (spanText (char :: chars)).1
          (scan (position + Text.width piece.source) (spanText (char :: chars)).2).map
            (piece :: ·)
termination_by source.length
decreasing_by
  · have parts := congrArg List.length (Delimiter.eq_append_of_opens? _opened)
    have inner := congrArg List.length (Text.eq_append_of_cut _found)
    simp only [List.length_append] at parts inner
    have two : delimiter.opening.length = 2 := by cases delimiter <;> rfl
    omega
  · have parts := congrArg List.length (Delimiter.eq_append_of_opens? _opened)
    have inner := congrArg List.length (Text.eq_append_of_cut _found)
    have quoted := congrArg List.length (Quotation.eq_append_of_split? _body)
    simp only [List.length_append] at parts inner quoted
    have two : delimiter.opening.length = 2 := by cases delimiter <;> rfl
    omega
  · exact spanText_length_lt _opened

end Piece

end Stencil
