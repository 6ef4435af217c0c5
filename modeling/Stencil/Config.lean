import Stencil.Scope
import Stencil.Text.Quoted

/-!
# Configurations

The filters and custom tags that templates may use.  The names of the tags that
the language itself defines cannot be registered.
-/

namespace Stencil

/-- Why a value cannot be filtered. -/
inductive Fault
  /-- A date format asks for the zone of a date without one. -/
  | zoneUnknown
  /-- A list cannot be sorted, as its items are in no order. -/
  | unordered
  deriving DecidableEq, Repr

/-- A filter: from the time, a value and an argument to a value. -/
abbrev Filter :=
  Moment → Value → Option Value → Except Fault Value

/-- A tag that is not part of the language. -/
structure CustomTag where
  /-- Checks the markup of the tag when a template is compiled. -/
  validate : String → Except Error Unit
  /-- The output after the tag with some markup, from the output before it. -/
  render : String → Scope → String → String

/-- The names of the tags that the language itself defines. -/
def Config.reservedTags : List String :=
  ["if", "elseif", "elsif", "else", "endif", "unless", "endunless", "case", "when", "endcase",
    "capture", "endcapture", "assign", "comment", "endcomment", "raw", "endraw"]

/-- The filters and custom tags that templates may use; no custom tag has a reserved name. -/
structure Config where
  filters : Entries Filter
  tags : Entries CustomTag
  unreserved : ∀ name ∈ Config.reservedTags, tags.get? name = none

namespace Config

/-- The message that refuses the registration of a reserved name. -/
def reservedMessage (name : String) : String :=
  "`" ++ name ++ "` is a built-in tag and can't be replaced"

def empty : Config :=
  { filters := [], tags := [], unreserved := fun _ _ => rfl }

/-- The configuration with a filter registered, in place of one of the same name. -/
def registerFilter (config : Config) (name : String) (filter : Filter) : Config :=
  { config with filters := config.filters.insert name filter }

/-- The configuration with a tag registered; none if its name is reserved. -/
def registerTag? (config : Config) (name : String) (tag : CustomTag) : Option Config :=
  if reserved : name ∈ reservedTags then
    none
  else
    some
      { config with
        tags := config.tags.insert name tag
        unreserved := by
          intro other otherReserved
          have differs : other ≠ name := fun same => reserved (same ▸ otherReserved)
          rw [Entries.get?_insert, if_neg differs]
          exact config.unreserved other otherReserved }

def filter? (config : Config) (name : String) : Option Filter :=
  config.filters.get? name

def tag? (config : Config) (name : String) : Option CustomTag :=
  config.tags.get? name

def hasFilter (config : Config) (name : String) : Bool :=
  config.filters.has name

def hasTag (config : Config) (name : String) : Bool :=
  config.tags.has name

def listNames (names : List String) : String :=
  "[" ++ String.intercalate ", " (names.map fun name => String.ofList (Text.quoted name.toList)) ++
    "]"

/-- A configuration for a reader: the names of its filters and tags. -/
def description (config : Config) : String :=
  "Config \x7b filters: " ++ listNames config.filters.names ++ ", tags: " ++
    listNames config.tags.names ++ " \x7d"

end Config

end Stencil
