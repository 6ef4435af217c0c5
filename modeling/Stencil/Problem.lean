import Stencil.Error
import Stencil.Grammar.Rule
import Stencil.Text.Width

/-!
# Problems of a source

The reasons why a source has no template.  Each has a kind and a text of its
own; together with a byte position it becomes an error.
-/

namespace Stencil

/-- A reason why a source cannot be compiled. -/
inductive Problem
  /-- A delimiter that nothing closes. -/
  | unterminated (delimiter : Delimiter)
  /-- None of these rules could be read. -/
  | expected (rules : List Grammar.Rule)
  /-- An integer literal that does not fit in signed 64 bits. -/
  | integerOutOfBounds (literal : String)
  /-- A tree that no text has. -/
  | strayTree
  | unknownFilter (name : String)
  /-- A custom tag that rejects its markup. -/
  | rejectedMarkup (tag : String) (reason : Error)
  /-- A tag that stands alone but has arguments. -/
  | needlessArguments (keyword arguments : String)
  | emptyTag
  /-- A branch tag in a block of another kind, or in none. -/
  | misplacedBranch (keyword : String) (opener : Option String)
  /-- A closing tag in a block of another kind, or in none. -/
  | strayCloser (keyword : String) (opener : Option String)
  | unknownTag (keyword : String)
  /-- A branch after the last one. -/
  | branchAfterElse (keyword opener : String)
  /-- Something other than text before the first branch of a `case`. -/
  | caseWithoutBranch
  /-- A block that is open at the end. -/
  | neverClosed (opener closer : String)
  deriving DecidableEq

namespace Problem

def kind : Problem → ParseErrorKind
  | .expected _ | .integerOutOfBounds _ | .strayTree | .rejectedMarkup _ _ =>
      .malformedExpression
  | .unknownFilter _ => .unknownFilter
  | .needlessArguments _ _ | .emptyTag | .misplacedBranch _ _ | .unknownTag _
  | .branchAfterElse _ _ | .caseWithoutBranch => .unexpectedToken
  | .unterminated _ | .strayCloser _ _ | .neverClosed _ _ => .unmatchedTag

/-- A word of the template language as it is shown in a message. -/
def code (word : String) : String :=
  "`" ++ word ++ "`"

def text : Problem → String
  | .unterminated delimiter => code (String.ofList delimiter.opening) ++ " is never closed"
  | .expected rules => Grammar.Rule.expectation rules
  | .integerOutOfBounds literal => "Integer out of bounds: " ++ code literal
  | .strayTree => "unexpected expression"
  | .unknownFilter name => "Filter " ++ code name ++ " is not registered"
  | .rejectedMarkup tag reason => "Invalid " ++ code tag ++ " tag: " ++ reason.message
  | .needlessArguments keyword arguments =>
      code keyword ++ " doesn't take any argument, found " ++ code arguments
  | .emptyTag => "Empty tag"
  | .misplacedBranch keyword (some opener) =>
      code keyword ++ " is not allowed inside " ++ code opener
  | .misplacedBranch keyword none => code keyword ++ " is not allowed outside of a block"
  | .strayCloser keyword (some opener) => code keyword ++ " doesn't close " ++ code opener
  | .strayCloser keyword none => code keyword ++ " has no matching opening tag"
  | .unknownTag keyword => "Unknown tag " ++ code keyword
  | .branchAfterElse keyword opener =>
      code keyword ++ " found after the `else` of " ++ code opener
  | .caseWithoutBranch => "Only `when` or `else` can follow a `case` tag"
  | .neverClosed opener closer =>
      code opener ++ " is never closed: expected " ++ code closer ++
        " before the end of the template"

/-- The error that reports a problem at a byte position of a source. -/
def toError (source : List Char) (position : Nat) : Problem → Error
  | .unterminated delimiter => .unterminated delimiter position
  | problem =>
      .parse problem.kind position
        ((Text.Location.of source position).text ++ ": " ++ problem.text)

end Problem

end Stencil
