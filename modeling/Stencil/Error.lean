import Stencil.Piece
import Stencil.Reason

/-!
# Errors

What the operations of the library report when they fail.  A template that
cannot be compiled is reported with the byte position at fault and a message
that opens with line and column.
-/

namespace Stencil

/-- The ways in which the inside of a source can be wrong. -/
inductive ParseErrorKind
  /-- A tag that is unknown or not allowed where it stands. -/
  | unexpectedToken
  /-- A block that is closed without being open, or the other way round. -/
  | unmatchedTag
  /-- The inside of an output or a tag cannot be read. -/
  | malformedExpression
  | unknownFilter
  deriving DecidableEq, Repr

namespace ParseErrorKind

/-- The words that stand for a kind in a message. -/
def description : ParseErrorKind → String
  | .unexpectedToken => "unexpected token"
  | .unmatchedTag => "unmatched tag"
  | .malformedExpression => "malformed expression"
  | .unknownFilter => "unknown filter"

end ParseErrorKind

/-- An error that an operation reports. -/
inductive Error
  /-- A delimiter, opened at a byte position, that nothing closes. -/
  | unterminated (delimiter : Delimiter) (position : Nat)
  | parse (kind : ParseErrorKind) (position : Nat) (message : String)
  | custom (message : String)
  /-- Host data that cannot be converted to a value, and the reason. -/
  | conversion (reason : String)
  /-- Output that cannot be written: the kind of the failure, and the reason. -/
  | writing (kind reason : String)
  deriving DecidableEq

namespace Error

/-- The error of host data that refuses to be converted, for a reason of its own. -/
def refusal (reason : String) : Error :=
  .conversion (Reason.report reason)

def message : Error → String
  | .unterminated delimiter position =>
      "Unterminated `" ++ String.ofList delimiter.opening ++ "` opened at byte " ++
        toString position ++ ": expected `" ++ String.ofList delimiter.closing ++
        "` before the end of the template"
  | .parse kind position message =>
      "Failed to parse template (" ++ kind.description ++ " at byte " ++ toString position ++
        "): " ++ message
  | .custom message => message
  | .conversion _ => "Failed to convert data into a template value"
  | .writing kind _ => "Io error while writing rendered value to output: " ++ kind

/-- The reason behind an error, where it has one. -/
def source? : Error → Option String
  | .conversion reason => some reason
  | .writing _ reason => some reason
  | _ => none

/-- Whether an error is about a source that cannot be compiled. -/
def isParseError : Error → Bool
  | .parse _ _ _ => true
  | _ => false

end Error

end Stencil
