import Stencil.Number.Decimal
import Stencil.Text.Search

/-!
# Reasons

Host data that refuses to be converted gives a reason in words of its own.
Words that end in a place, a line and a column, are taken to name it: the
numbers of the place are written without needless zeros, and a place in line
zero is no place at all and is left out.
-/

namespace Stencil

/-- The words of a reason, and the line and the column that it names. -/
structure Reason where
  words : List Char
  place : Option (Nat × Nat)
  deriving DecidableEq

namespace Reason

/-- What stands before the line of a place. -/
def lineMark : List Char :=
  " at line ".toList

/-- What stands between the line and the column of a place. -/
def columnMark : List Char :=
  " column ".toList

/-- A number that fits in 64 bits. -/
def readCount? (text : List Char) : Option Nat :=
  (Decimal.readDigits? text).bind fun count =>
    if count < 18446744073709551616 then some count else none

/-- The line and the column of a text that consists of a place without its first mark. -/
def readPlace? (text : List Char) : Option (Nat × Nat) := do
  let column ← Text.after columnMark (text.dropWhile Char.isDigit)
  let line ← readCount? (text.takeWhile Char.isDigit)
  return (line, ← readCount? column)

def read (text : List Char) : Reason :=
  match Text.cutLast lineMark text with
  | none => ⟨text, none⟩
  | some (words, rest) =>
      match readPlace? rest with
      | none => ⟨text, none⟩
      | some place => ⟨words, some place⟩

def write (reason : Reason) : List Char :=
  match reason.place with
  | none | some (0, _) => reason.words
  | some (line, column) =>
      reason.words ++ lineMark ++ Nat.toDigits 10 line ++ columnMark ++ Nat.toDigits 10 column

/-- The text that is reported for a reason given as a text. -/
def report (text : String) : String :=
  String.ofList (read text.toList).write

end Reason

end Stencil
