/-!
# Byte widths and positions

Sources are lists of characters, while errors point at bytes of the UTF-8
form.  This file measures a list of characters in bytes and turns a byte
position into the line and column a reader sees.
-/

namespace Stencil

namespace Text

/-- Number of bytes of the UTF-8 form of a text. -/
def width : List Char → Nat
  | [] => 0
  | char :: chars => char.utf8Size + width chars

@[simp]
theorem width_nil : width [] = 0 :=
  rfl

@[simp]
theorem width_cons (char : Char) (chars : List Char) :
    width (char :: chars) = char.utf8Size + width chars :=
  rfl

@[simp]
theorem width_append (first second : List Char) :
    width (first ++ second) = width first + width second := by
  induction first with
  | nil => simp
  | cons char chars ih => simp [ih, Nat.add_assoc]

/-- The first `bytes` bytes of a text, when they end between two characters. -/
def takeWidth : Nat → List Char → Option (List Char)
  | 0, _ => some []
  | _ + 1, [] => none
  | bytes + 1, char :: chars =>
      if char.utf8Size ≤ bytes + 1 then
        (takeWidth (bytes + 1 - char.utf8Size) chars).map (char :: ·)
      else
        none

/-- Line and column of a place in a text, both counted from one. -/
structure Location where
  line : Nat
  column : Nat
  deriving DecidableEq, Repr

namespace Location

def start : Location :=
  ⟨1, 1⟩

def advance (location : Location) (char : Char) : Location :=
  if char = '\n' then
    ⟨location.line + 1, 1⟩
  else
    ⟨location.line, location.column + 1⟩

def after (text : List Char) : Location :=
  text.foldl advance start

/--
The place of a byte position of a source.  A position that is not between two
characters of the source counts as its end.
-/
def of (source : List Char) (position : Nat) : Location :=
  after ((takeWidth position source).getD source)

/-- The form in which error messages open: line, colon, column. -/
def text (location : Location) : String :=
  toString location.line ++ ":" ++ toString location.column

end Location

end Text

end Stencil
