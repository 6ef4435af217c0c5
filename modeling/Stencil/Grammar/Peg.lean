import Stencil.Grammar.Rule
import Stencil.Text.Search
import Stencil.Text.Width

/-!
# Parsing expression grammars

A grammar is a piece of data with two readings.  `Peg.read` gives the trees of
a text; `Peg.trace` gives, for a text without any, the furthest place that was
reached and the rules that were expected there.

Choices are ordered and nothing is read twice in another way.  Outside of
leaves, blanks are skipped between the parts of a sequence and before each
repetition.
-/

namespace Stencil

namespace Grammar

/-- A parsing expression. -/
inductive Peg
  /-- One character of a class. -/
  | satisfy (accepts : Char → Bool)
  | literal (text : List Char)
  | andThen (first second : Peg)
  /-- The second expression where the first cannot be read. -/
  | orElse (first second : Peg)
  | optional (body : Peg)
  /-- As many repetitions as can be read. -/
  | many (body : Peg)
  /-- Reads nothing, where the expression cannot be read. -/
  | notAhead (body : Peg)
  /-- Reads nothing, at the end of the text. -/
  | finish
  /-- A rule whose parts have trees of their own. -/
  | node (rule : Rule) (body : Peg)
  /-- A rule that is read without blanks and without parts. -/
  | leaf (rule : Rule) (body : Peg)

/--
The tree of a rule that was read: what a leaf has read, the text from the place
on where the rule began, and the trees of its parts.
-/
inductive Tree
  | mk (rule : Rule) (text start : List Char) (children : List Tree)

namespace Tree

def rule : Tree → Rule
  | ⟨rule, _, _, _⟩ => rule

/-- The text from the place on where the rule of a tree began. -/
def start : Tree → List Char
  | ⟨_, _, start, _⟩ => start

end Tree

/-- Blanks inside tags: spaces, tabulators and line ends. -/
def isTagBlank (char : Char) : Bool :=
  char = ' ' || char = '\t' || char = '\r' || char = '\n'

/-- A text without the blanks it begins with. -/
def skipBlanks (input : List Char) : List Char :=
  input.dropWhile isTagBlank

namespace Peg

/-- What is read of a text, characters or trees, and what follows it. -/
abbrev Reading (α : Type) :=
  Option (List α × List Char)

/--
Repeats a step until it cannot be taken.  A step that can be taken reads at
least one character, so the first text, from which the second is left, bounds
the number of steps.
-/
def repeatStep {α : Type} (step : List Char → Reading α) :
    (bound input : List Char) → List α × List Char
  | [], input => ([], input)
  | _ :: bound, input =>
      match step input with
      | none => ([], input)
      | some (found, rest) =>
          let (later, last) := repeatStep step bound rest
          (found ++ later, last)

/-- Reads the beginning of a text as it stands, without blanks between the parts. -/
def consume : Peg → List Char → Reading Char
  | .satisfy _, [] => none
  | .satisfy accepts, char :: chars => if accepts char then some ([char], chars) else none
  | .literal text, input => (Text.after text input).map fun rest => (text, rest)
  | .andThen first second, input =>
      match first.consume input with
      | none => none
      | some (text, rest) =>
          (second.consume rest).map fun (later, rest) => (text ++ later, rest)
  | .orElse first second, input =>
      match first.consume input with
      | none => second.consume input
      | some reading => some reading
  | .optional body, input =>
      match body.consume input with
      | none => some ([], input)
      | some reading => some reading
  | .many body, input => some (repeatStep body.consume input input)
  | .notAhead body, input =>
      match body.consume input with
      | none => some ([], input)
      | some _ => none
  | .finish, input => if input.isEmpty then some ([], []) else none
  | .node _ body, input | .leaf _ body, input => body.consume input

/-- Reads the trees at the beginning of a text, with blanks skipped between the parts. -/
def read : Peg → List Char → Reading Tree
  | .andThen first second, input =>
      match first.read input with
      | none => none
      | some (trees, rest) =>
          (second.read (skipBlanks rest)).map fun (later, rest) => (trees ++ later, rest)
  | .orElse first second, input =>
      match first.read input with
      | none => second.read input
      | some reading => some reading
  | .optional body, input =>
      match body.read input with
      | none => some ([], input)
      | some reading => some reading
  | .many body, input =>
      some (repeatStep (fun input => body.read (skipBlanks input)) input input)
  | .node rule body, input =>
      (body.read input).map fun (children, rest) => ([⟨rule, [], input, children⟩], rest)
  | .leaf rule body, input =>
      (body.consume input).map fun (text, rest) => ([⟨rule, text, input, []⟩], rest)
  | .satisfy accepts, input => (consume (.satisfy accepts) input).map fun (_, rest) => ([], rest)
  | .literal text, input => (consume (.literal text) input).map fun (_, rest) => ([], rest)
  | .notAhead body, input => (consume (.notAhead body) input).map fun (_, rest) => ([], rest)
  | .finish, input => (consume .finish input).map fun (_, rest) => ([], rest)

end Peg

/--
The furthest place at which a rule has failed, as the number of bytes that
remain from there, and the rules that have failed there.
-/
structure Attempts where
  remaining : Nat
  expected : List Rule
  deriving DecidableEq

namespace Attempts

/-- No attempt yet, at the beginning of a text. -/
def start (input : List Char) : Attempts :=
  ⟨Text.width input, []⟩

/-- How many rules are listed for a place. -/
def countAt (attempts : Attempts) (remaining : Nat) : Nat :=
  if attempts.remaining = remaining then attempts.expected.length else 0

/--
Notes that a rule failed at a place.  `earlier` are the attempts from before
the rule, and `attempts` those that its parts have added.  A single part that
failed at the same place says more than the rule and is kept; several parts are
replaced by the rule.
-/
def note (earlier attempts : Attempts) (rule : Rule) (remaining : Nat) : Attempts :=
  let before := earlier.countAt remaining
  if attempts.countAt remaining = before + 1 then
    attempts
  else if remaining = attempts.remaining then
    ⟨remaining, attempts.expected.take before ++ [rule]⟩
  else if remaining < attempts.remaining then
    ⟨remaining, [rule]⟩
  else
    attempts

end Attempts

namespace Peg

/-- Follows the repetitions of a step, the last of which fails. -/
def traceSteps (step : List Char → Reading Tree)
    (visit : List Char → Attempts → Attempts) :
    (bound input : List Char) → Attempts → Attempts
  | [], input, attempts => visit input attempts
  | _ :: bound, input, attempts =>
      match step input with
      | none => visit input attempts
      | some (_, rest) => traceSteps step visit bound rest (visit input attempts)

/-- Collects the attempts that reading a text makes, where blanks are skipped. -/
def trace : Peg → List Char → Attempts → Attempts
  | .andThen first second, input, attempts =>
      match first.read input with
      | none => first.trace input attempts
      | some (_, rest) => second.trace (skipBlanks rest) (first.trace input attempts)
  | .orElse first second, input, attempts =>
      match first.read input with
      | none => second.trace input (first.trace input attempts)
      | some _ => first.trace input attempts
  | .optional body, input, attempts => body.trace input attempts
  | .many body, input, attempts =>
      traceSteps (fun input => body.read (skipBlanks input))
        (fun input => body.trace (skipBlanks input)) input input attempts
  | .node rule body, input, attempts =>
      let later := body.trace input attempts
      match body.read input with
      | none => attempts.note later rule (Text.width input)
      | some _ => later
  | .leaf rule body, input, attempts =>
      match body.consume input with
      | none => attempts.note attempts rule (Text.width input)
      | some _ => attempts
  | .satisfy _, _, attempts | .literal _, _, attempts | .notAhead _, _, attempts
  | .finish, _, attempts => attempts

/-- The trees of a text, or the attempts of reading it. -/
def parse (grammar : Peg) (input : List Char) : Except Attempts (List Tree) :=
  match grammar.read input with
  | some (trees, _) => .ok trees
  | none => .error (grammar.trace input (.start input))

end Peg

end Grammar

end Stencil
