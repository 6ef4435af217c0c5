/-!
# Names of grammar rules

The rules that can be named when the inside of a tag cannot be read.
-/

namespace Stencil

namespace Grammar

/-- The named rules, in the order in which messages list them. -/
inductive Rule
  | endOfTag
  | int
  | float
  | doubleQuotedString
  | singleQuotedString
  | string
  | boolean
  | nil
  | literal
  | ident
  | path
  | primary
  | equal
  | unequal
  | lessOrEqual
  | greaterOrEqual
  | less
  | greater
  | contains
  | and
  | or
  | comparison
  | condition
  | filter
  | outputTag
  | conditionTag
  | caseTag
  | whenTag
  | captureTag
  | assignTag
  deriving DecidableEq, Repr

namespace Rule

/-- All rules, in the order in which messages list them. -/
def all : List Rule :=
  [.endOfTag, .int, .float, .doubleQuotedString, .singleQuotedString, .string, .boolean, .nil,
    .literal, .ident, .path, .primary, .equal, .unequal, .lessOrEqual, .greaterOrEqual, .less,
    .greater, .contains, .and, .or, .comparison, .condition, .filter, .outputTag, .conditionTag,
    .caseTag, .whenTag, .captureTag, .assignTag]

/-- The words that stand for a rule in a message. -/
def description : Rule → String
  | .endOfTag => "end of tag"
  | .int => "an integer"
  | .float => "a float"
  | .doubleQuotedString | .singleQuotedString | .string => "a string"
  | .boolean => "`true` or `false`"
  | .nil => "`nil`"
  | .literal => "a literal"
  | .ident => "an identifier (must start with a-z or _)"
  | .path => "a variable (identifiers separated by `.`)"
  | .primary => "a value"
  | .equal => "`==`"
  | .unequal => "`!=`"
  | .lessOrEqual => "`<=`"
  | .greaterOrEqual => "`>=`"
  | .less => "`<`"
  | .greater => "`>`"
  | .contains => "`contains`"
  | .and => "`and`"
  | .or => "`or`"
  | .comparison => "a comparison"
  | .condition => "a condition"
  | .filter => "a filter"
  | .outputTag => "output_tag"
  | .conditionTag => "condition_tag"
  | .caseTag => "case_tag"
  | .whenTag => "when_tag"
  | .captureTag => "capture_tag"
  | .assignTag => "assign_tag"

/-- Words in a list: `a`, `a or b`, `a, b, or c`. -/
def enumerate : List String → String
  | [] => ""
  | [only] => only
  | [first, second] => first ++ " or " ++ second
  | first :: rest =>
      let listed := String.intercalate ", " (first :: rest.dropLast)
      listed ++ ", or " ++ rest.getLast?.getD ""

/-- The rules that were expected, as a message: each once, in order. -/
def expectation (rules : List Rule) : String :=
  "expected " ++ enumerate ((all.filter (· ∈ rules)).map description)

end Rule

end Grammar

end Stencil
