import Stencil.Number.Word
import Stencil.Text.Blank
import Stencil.Value.Text

/-!
# Filters on numbers

Two integers are computed with as integers of signed 64 bits while the result
fits, and everything else as doubles.  Texts count as the numbers they denote,
and what is no number counts as zero.
-/

namespace Stencil

namespace Filter

inductive Operand
  | integer (value : Int)
  | double (value : Double)

namespace Operand

/-- An integer, if it fits in signed 64 bits. -/
def fitting? (value : Int) : Option Int :=
  if -9223372036854775808 ≤ value ∧ value < 9223372036854775808 then some value else none

/-- The number that a text denotes, apart from blanks around it; zero if it denotes none. -/
def ofText (text : List Char) : Operand :=
  let trimmed := Text.trim text
  match (Decimal.readInteger? trimmed).bind fitting? with
  | some value => .integer value
  | none =>
      match Double.read? .double trimmed with
      | some value => .double value
      | none => .integer 0

def ofValue : Value → Operand
  | .number numeral =>
      match numeral.signed? with
      | some value => .integer value
      | none => .double numeral.toDouble
  | .string text => .ofText text.toList
  | .object host => .ofText host.text.toList
  | _ => .integer 0

def ofArgument (argument : Option Value) : Operand :=
  (argument.map ofValue).getD (.integer 0)

def toDouble : Operand → Double
  | .integer value => .ofInt value
  | .double value => value

/-- Whether the operand counts as zero. -/
def isZero (operand : Operand) : Bool :=
  operand.toDouble.isZero

end Operand

/-- Computes with integers if both operands are integers and there is a result, and else with
doubles. -/
def compute (onIntegers : Int → Int → Option Int) (onDoubles : Double → Double → Double)
    (left right : Operand) : Value :=
  let exact :=
    match left, right with
    | .integer first, .integer second => (onIntegers first second).bind Operand.fitting?
    | _, _ => none
  match exact with
  | some result => .ofInt result
  | none => .ofDouble (onDoubles left.toDouble right.toDouble)

/-- Computes with integers that fit in signed 64 bits as with words. -/
def onWords (operation : Int64 → Int64 → Option Int64) (first second : Int) : Option Int :=
  (operation (.ofInt first) (.ofInt second)).map Int64.toInt

def plus (value : Value) (argument : Option Value) : Value :=
  compute (fun first second => some (first + second)) Double.add
    (.ofValue value) (.ofArgument argument)

/-- The value without the argument. -/
def minus (value : Value) (argument : Option Value) : Value :=
  compute (fun first second => some (first - second)) Double.sub
    (.ofValue value) (.ofArgument argument)

def times (value : Value) (argument : Option Value) : Value :=
  compute (fun first second => some (first * second)) Double.mul
    (.ofValue value) (.ofArgument argument)

/-- The value divided by the argument, rounded down if both are integers; unchanged by zero. -/
def dividedBy (value : Value) (argument : Option Value) : Value :=
  let divisor := Operand.ofArgument argument
  if divisor.isZero then
    value
  else
    compute (onWords Word.floorQuotient?) Double.div (.ofValue value) divisor

/-- Remainder of the division of doubles, with the sign of the divisor. -/
def floorRemainder (first second : Double) : Double :=
  first.sub (second.mul (first.div second).floor)

/-- The remainder of the value divided by the argument; the value unchanged by zero. -/
def modulo (value : Value) (argument : Option Value) : Value :=
  let divisor := Operand.ofArgument argument
  if divisor.isZero then
    value
  else
    compute (onWords Word.floorRemainder?) floorRemainder (.ofValue value) divisor

end Filter

end Stencil
