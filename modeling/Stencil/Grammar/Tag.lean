import Stencil.Grammar.Peg

/-!
# The grammar of tags

What may stand inside outputs and after the keyword of a tag.
-/

namespace Stencil

namespace Grammar

def Peg.oneOrMore (body : Peg) : Peg :=
  body.andThen body.many

def digit : Peg :=
  .satisfy Char.isDigit

def char (expected : Char) : Peg :=
  .satisfy (· == expected)

/-- Characters that an identifier may go on with. -/
def isIdentChar (char : Char) : Bool :=
  char.isAlphanum || char == '_' || char == '-'

/-- Characters that an identifier may begin with. -/
def isIdentStart (char : Char) : Bool :=
  char.isAlpha || char == '_'

/-- A word that does not go on as an identifier. -/
def word (letters : List Char) : Peg :=
  (Peg.literal letters).andThen (.notAhead (.satisfy isIdentChar))

/-! ## Literals -/

def int : Peg :=
  .leaf .int ((char '-').optional.andThen digit.oneOrMore)

/-- A decimal number: digits on both sides of the point. -/
def float : Peg :=
  .leaf .float ((char '-').optional.andThen
    (digit.oneOrMore.andThen ((char '.').andThen digit.oneOrMore)))

/-- Anything between two of the same quotes. -/
def quoted (quote : Char) : Peg :=
  (char quote).andThen ((Peg.satisfy (· != quote)).many.andThen (char quote))

/-- A string in double or single quotes. -/
def string : Peg :=
  .leaf .string ((quoted '"').orElse (quoted '\x27'))

def boolean : Peg :=
  .leaf .boolean ((word "true".toList).orElse (word "false".toList))

def nil : Peg :=
  .leaf .nil ((word "nil".toList).orElse (word "null".toList))

def literal : Peg :=
  .node .literal (float.orElse (int.orElse (string.orElse (boolean.orElse nil))))

/-! ## Names -/

def identLetters : Peg :=
  (Peg.satisfy isIdentStart).andThen (Peg.satisfy isIdentChar).many

def ident : Peg :=
  .leaf .ident identLetters

/-- An identifier, and identifiers or numbers behind points. -/
def path : Peg :=
  .leaf .path (identLetters.andThen ((char '.').andThen (identLetters.orElse digit.oneOrMore)).many)

def primary : Peg :=
  .node .primary (literal.orElse path)

/-! ## Operators -/

def comparisonOperator : Peg :=
  (Peg.node .equal (.literal "==".toList)).orElse <|
  (Peg.node .unequal ((Peg.literal "!=".toList).orElse (.literal "<>".toList))).orElse <|
  (Peg.node .lessOrEqual (.literal "<=".toList)).orElse <|
  (Peg.node .greaterOrEqual (.literal ">=".toList)).orElse <|
  (Peg.node .less (.literal "<".toList)).orElse <|
  (Peg.node .greater (.literal ">".toList)).orElse <|
  Peg.leaf .contains (word "contains".toList)

/-- The connective of conditions that both have to hold. -/
def and : Peg :=
  .leaf .and (word "and".toList)

/-- The connective of conditions of which one has to hold. -/
def or : Peg :=
  .leaf .or (word "or".toList)

/-! ## Expressions -/

/-- A value, or two values with an operator between them. -/
def comparison : Peg :=
  .node .comparison (primary.andThen (comparisonOperator.andThen primary).optional)

/-- Comparisons with connectives between them. -/
def condition : Peg :=
  .node .condition (comparison.andThen ((and.orElse or).andThen comparison).many)

/-- The name of a filter, and its argument after a colon. -/
def filter : Peg :=
  .node .filter (ident.andThen ((char ':').andThen primary).optional)

/-- Filters, each after a bar. -/
def filters : Peg :=
  ((char '|').andThen filter).many

/-! ## Insides of tags -/

def endOfTag : Peg :=
  .leaf .endOfTag .finish

def outputTag : Peg :=
  .node .outputTag (comparison.andThen (filters.andThen endOfTag))

def conditionTag : Peg :=
  .node .conditionTag (condition.andThen endOfTag)

def caseTag : Peg :=
  .node .caseTag (primary.andThen endOfTag)

/-- The values of a when tag, separated by commas or `or`. -/
def whenTag : Peg :=
  .node .whenTag
    (primary.andThen (((or.orElse (char ',')).andThen primary).many.andThen endOfTag))

def captureTag : Peg :=
  .node .captureTag (ident.andThen endOfTag)

/-- The name that an assign tag sets, and the output it is set to. -/
def assignTag : Peg :=
  .node .assignTag
    (ident.andThen ((char '=').andThen (comparison.andThen (filters.andThen endOfTag))))

end Grammar

end Stencil
