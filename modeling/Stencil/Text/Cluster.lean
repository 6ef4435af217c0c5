import Stencil.Text.GraphemeClass

/-!
# Grapheme clusters

A text is cut into clusters, the characters as a reader perceives them, from
left to right.  Whether two neighbours stay together depends on their classes
and on two facts about what stands before them: whether an odd number of
regional indicators ends there, and whether an emoji base does, with nothing
but extending characters behind it.
-/

namespace Stencil

namespace Text

/-- What is known of the text before a possible cut. -/
structure ClusterContext where
  previous : GraphemeClass
  oddIndicators : Bool
  modifiable : Bool

namespace ClusterContext

/-- Whether an emoji of this class takes a modifier. -/
def takesModifier (kind : GraphemeClass) : Bool :=
  kind = .emojiBase || kind = .emojiBaseAndGlue

def start (kind : GraphemeClass) : ClusterContext :=
  ⟨kind, kind = .regionalIndicator, takesModifier kind⟩

def step (context : ClusterContext) (kind : GraphemeClass) : ClusterContext where
  previous := kind
  oddIndicators := kind = .regionalIndicator && !context.oddIndicators
  modifiable := takesModifier kind || (kind = .extend && context.modifiable)

/-- Whether the next character belongs to the cluster of the one before it. -/
def joins (context : ClusterContext) (next : GraphemeClass) : Bool :=
  match context.previous, next with
  | .carriageReturn, .lineFeed => true
  | .carriageReturn, _ | .lineFeed, _ | .control, _ => false
  | _, .carriageReturn | _, .lineFeed | _, .control => false
  | .leadingConsonant, .leadingConsonant | .leadingConsonant, .vowel
  | .leadingConsonant, .openSyllable | .leadingConsonant, .closedSyllable => true
  | .openSyllable, .vowel | .openSyllable, .trailingConsonant
  | .vowel, .vowel | .vowel, .trailingConsonant
  | .closedSyllable, .trailingConsonant
  | .trailingConsonant, .trailingConsonant => true
  | _, .extend | _, .joiner | _, .spacingMark => true
  | .prepend, _ => true
  | .joiner, .glueAfterJoiner | .joiner, .emojiBaseAndGlue => true
  | .regionalIndicator, .regionalIndicator => context.oddIndicators
  | _, .emojiModifier => context.modifiable
  | _, _ => false

end ClusterContext

/-- The rest of the cluster that is under way, and the clusters after it. -/
def clustersAfter (context : ClusterContext) : List Char → List Char × List (List Char)
  | [] => ([], [])
  | char :: chars =>
      let kind := graphemeClass char
      let (current, later) := clustersAfter (context.step kind) chars
      if context.joins kind then
        (char :: current, later)
      else
        ([], (char :: current) :: later)

def clusters : List Char → List (List Char)
  | [] => []
  | char :: chars =>
      let (current, later) := clustersAfter (.start (graphemeClass char)) chars
      (char :: current) :: later

end Text

end Stencil
