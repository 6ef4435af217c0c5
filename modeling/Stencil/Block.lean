import Stencil.Config
import Stencil.Segment
import Stencil.Syntax.OfTree

/-!
# Blocks

Segments become nodes one after the other, while the blocks that are open are
kept on a stack.  A tag either turns the innermost block, which means that it
begins a new branch or closes it, or it stands for itself.
-/

namespace Stencil

/-- A tag: its keyword, and the rest of its inside. -/
structure Tag where
  keyword : String
  position : Nat
  arguments : TagInside

namespace Tag

/-- The tag with an inside at a byte position. -/
def ofInside (inner : List Char) (position : Nat) : Tag :=
  let arguments := Text.trimStart (Text.fromBlank inner)
  { keyword := String.ofList (Text.untilBlank inner)
    position
    arguments := ⟨arguments, position + Text.width inner - Text.width arguments⟩ }

def expectAlone (tag : Tag) : Checked Unit :=
  if tag.arguments.text.isEmpty then
    .ok ()
  else
    Checked.fail
      (.needlessArguments tag.keyword (String.ofList tag.arguments.text))
      tag.arguments.position

end Tag

/-- What is known of a block that is open, besides the body of its present branch. -/
inductive Frame
  /-- The branches before the present one, and its condition; only the last branch has none. -/
  | conditional (negated : Bool) (branches : List (Branch Node)) (condition : Option Expr)
  /-- A case before its first branch. -/
  | preamble (subject : Expr)
  /-- A branch of a case, after others. -/
  | case (subject : Expr) (cases : List (When Node)) (values : List Expr)
  /-- The last branch of a case, for all other values. -/
  | otherwise (subject : Expr) (cases : List (When Node))
  | capture (name : String)

namespace Frame

def closer : Frame → String
  | .conditional false _ _ => "endif"
  | .conditional true _ _ => "endunless"
  | .preamble _ | .case _ _ _ | .otherwise _ _ => "endcase"
  | .capture _ => "endcapture"

end Frame

/-- A block that is open, the tag that opened it, and the nodes before it, the last one first. -/
structure OpenBlock where
  keyword : String
  position : Nat
  frame : Frame
  before : List Node

/-- What a tag makes of the block in which it stands. -/
inductive Turn
  /-- A new branch begins. -/
  | branch (frame : Frame)
  /-- The block becomes a node. -/
  | close (node : Node)

namespace OpenBlock

/-- Refuses a case in which something other than text stands before the first branch. -/
def expectOnlyText (block : OpenBlock) (body : List Node) : Checked Unit :=
  if body.all Node.isText then
    .ok ()
  else
    Checked.fail .caseWithoutBranch block.position

/-- Refuses a branch behind the last one. -/
def afterElse {α : Type} (tag : Tag) (opener : String) : Checked α :=
  Checked.fail (.branchAfterElse tag.keyword opener) tag.position

/-- Whether a keyword continues or closes a block. -/
def isTurn (block : OpenBlock) (keyword : String) : Bool :=
  keyword = block.frame.closer ||
    match block.frame with
    | .conditional false _ _ => keyword ∈ ["elseif", "elsif", "else"]
    | .conditional true _ _ => keyword = "else"
    | .preamble _ | .case _ _ _ | .otherwise _ _ => keyword ∈ ["when", "else"]
    | .capture _ => false

/-- The turn of a case by a tag, after the cases that are complete. -/
def turnCase (subject : Expr) (cases : List (When Node)) (tag : Tag) : Checked Turn := do
  if tag.keyword = "when" then
    return .branch (.case subject cases (← tag.arguments.values))
  else if tag.keyword = "else" then
    tag.expectAlone
    return .branch (.otherwise subject cases)
  else
    tag.expectAlone
    return .close (.switch subject cases none)

/-- The turn of a block by a tag that continues or closes it, after the body of a branch. -/
def turn (block : OpenBlock) (body : List Node) (tag : Tag) : Checked Turn :=
  match block.frame with
  | .conditional negated branches condition => do
      let branches := branches ++ [⟨condition, body⟩]
      if tag.keyword = block.frame.closer then
        tag.expectAlone
        return .close (.conditional branches)
      else if condition.isNone then
        afterElse tag block.keyword
      else if tag.keyword = "else" then
        tag.expectAlone
        return .branch (.conditional negated branches none)
      else
        return .branch (.conditional negated branches (some (← tag.arguments.condition)))
  | .preamble subject => do
      block.expectOnlyText body
      turnCase subject [] tag
  | .case subject cases values => turnCase subject (cases ++ [⟨values, body⟩]) tag
  | .otherwise subject cases => do
      if tag.keyword = block.frame.closer then
        tag.expectAlone
        return .close (.switch subject cases (some body))
      else
        afterElse tag "case"
  | .capture name => do
      tag.expectAlone
      return .close (.capture name body)

/-- Reports a block that is open at the end of the source. -/
def unclosed (block : OpenBlock) (body : List Node) : Checked (List Node) := do
  match block.frame with
  | .preamble _ => block.expectOnlyText body
  | _ => pure ()
  Checked.fail (.neverClosed block.keyword block.frame.closer) block.position

end OpenBlock

/--
The nodes so far of the innermost block, the last one first, and the blocks
that are open, innermost first.
-/
structure Assembly where
  reversed : List Node
  blocks : List OpenBlock

namespace Assembly

def empty : Assembly :=
  ⟨[], []⟩

/-- The nodes so far of the innermost block, in order. -/
def body (assembly : Assembly) : List Node :=
  assembly.reversed.reverse

def push (assembly : Assembly) (node : Node) : Assembly :=
  { assembly with reversed := node :: assembly.reversed }

def enter (assembly : Assembly) (tag : Tag) (frame : Frame) : Assembly :=
  ⟨[], ⟨tag.keyword, tag.position, frame, assembly.reversed⟩ :: assembly.blocks⟩

def within (assembly : Assembly) : Option String :=
  assembly.blocks.head?.map OpenBlock.keyword

/-- The assembly after a tag that is neither a branch nor a closing tag. -/
def addTag (config : Config) (assembly : Assembly) (tag : Tag) : Checked Assembly := do
  if tag.keyword = "if" then
    let condition ← tag.arguments.condition
    return assembly.enter tag (.conditional false [] (some condition))
  else if tag.keyword = "unless" then
    let condition ← tag.arguments.condition
    return assembly.enter tag (.conditional true [] (some (.not condition)))
  else if tag.keyword = "case" then
    return assembly.enter tag (.preamble (← tag.arguments.subject))
  else if tag.keyword = "capture" then
    return assembly.enter tag (.capture (← tag.arguments.captureName))
  else if tag.keyword = "assign" then
    let (name, value) ← tag.arguments.assignment config.hasFilter
    return assembly.push (.assign name value)
  else if tag.keyword = "" then
    Checked.fail .emptyTag tag.position
  else if tag.keyword ∈ ["elseif", "elsif", "else", "when"] then
    Checked.fail (.misplacedBranch tag.keyword assembly.within) tag.position
  else
    match config.tag? tag.keyword with
    | some custom =>
        let markup := String.ofList tag.arguments.text
        match custom.validate markup with
        | .ok () => return assembly.push (.custom tag.keyword markup)
        | .error reason =>
            Checked.fail (.rejectedMarkup tag.keyword reason) tag.arguments.position
    | none =>
        if (Text.after ['e', 'n', 'd'] tag.keyword.toList).isSome then
          Checked.fail (.strayCloser tag.keyword assembly.within) tag.position
        else
          Checked.fail (.unknownTag tag.keyword) tag.position

/-- The assembly after one more segment. -/
def add (config : Config) (assembly : Assembly) : Segment → Checked Assembly
  | .text content => .ok (assembly.push (.text (String.ofList content)))
  | .output inner position => do
      return assembly.push (.output (← TagInside.output config.hasFilter ⟨inner, position⟩))
  | .block inner position => do
      let tag := Tag.ofInside inner position
      match assembly.blocks with
      | block :: blocks =>
          if block.isTurn tag.keyword then
            match ← block.turn assembly.body tag with
            | .branch frame => return ⟨[], { block with frame } :: blocks⟩
            | .close node => return ⟨node :: block.before, blocks⟩
          else
            assembly.addTag config tag
      | [] => assembly.addTag config tag

/-- The nodes of an assembly in which no block is open. -/
def finish (assembly : Assembly) : Checked (List Node) :=
  match assembly.blocks with
  | [] => .ok assembly.body
  | block :: _ => block.unclosed assembly.body

end Assembly

namespace ScanFailure

/-- A failure to find the pieces of a source, as a problem. -/
def problem : ScanFailure → Problem
  | .unterminated delimiter => .unterminated delimiter
  | .unclosed kind => .neverClosed (String.ofList kind.opener) (String.ofList kind.closer)

end ScanFailure

namespace Node

def ofSegments (config : Config) (segments : List Segment) : Checked (List Node) := do
  (← segments.foldlM (Assembly.add config) Assembly.empty).finish

def compile (config : Config) (source : List Char) : Checked (List Node) := do
  let segments ←
    (Segment.scan source).mapError fun failure => ⟨failure.content.problem, failure.position⟩
  ofSegments config segments

end Node

end Stencil
