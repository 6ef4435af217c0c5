import Mathlib.Tactic.SplitIfs
import Stencil.Block
import Stencil.Proofs.Checked

/-!
# Marks

A segment can be read without the blocks around it: a mark is what it says on
its own.  Which tags are branches and closing tags is known from their keywords
alone, because no registered tag has a reserved name.
-/

namespace Stencil

theorem Config.not_mem_reservedTags (config : Config) {name : String} {custom : CustomTag}
    (registered : config.tag? name = some custom) : name ∉ reservedTags := by
  intro reserved
  rw [tag?, config.unreserved name reserved] at registered
  cases registered

/-- The families of blocks; a negated conditional is an `unless`. -/
inductive BlockKind
  | conditional (negated : Bool)
  | switch
  | capture
  deriving DecidableEq

namespace BlockKind

def opener : BlockKind → String
  | .conditional false => "if"
  | .conditional true => "unless"
  | .switch => "case"
  | .capture => "capture"

def closer : BlockKind → String
  | .conditional false => "endif"
  | .conditional true => "endunless"
  | .switch => "endcase"
  | .capture => "endcapture"

/-- The family that a keyword closes. -/
def ofCloser? (keyword : String) : Option BlockKind :=
  if keyword = "endif" then some (.conditional false)
  else if keyword = "endunless" then some (.conditional true)
  else if keyword = "endcase" then some .switch
  else if keyword = "endcapture" then some .capture
  else none

theorem closer_of_ofCloser? {keyword : String} {kind : BlockKind}
    (closes : ofCloser? keyword = some kind) : keyword = kind.closer := by
  unfold ofCloser? at closes
  split_ifs at closes <;> cases closes <;> assumption

theorem forall_iff {property : BlockKind → Prop} :
    (∀ kind, property kind) ↔ property (.conditional false) ∧ property (.conditional true) ∧
      property .switch ∧ property .capture := by
  constructor
  · exact fun all => ⟨all _, all _, all _, all _⟩
  · rintro ⟨plain, negation, switch, capture⟩ kind
    cases kind with
    | conditional negated => cases negated <;> assumption
    | switch => exact switch
    | capture => exact capture

instance {property : BlockKind → Prop} [DecidablePred property] :
    Decidable (∀ kind, property kind) :=
  decidable_of_iff _ forall_iff.symm

theorem opener_mem_reservedTags : ∀ kind : BlockKind, kind.opener ∈ Config.reservedTags := by
  decide

theorem closer_mem_reservedTags : ∀ kind : BlockKind, kind.closer ∈ Config.reservedTags := by
  decide

end BlockKind

/-- What a segment says on its own. -/
inductive Mark
  | text (content : String)
  | output (value : Output)
  | assign (name : String) (value : Output)
  | custom (name markup : String)
  /-- Opens a conditional. -/
  | ifTag (negated : Bool) (condition : Expr)
  | caseTag (subject : Expr)
  | captureTag (name : String)
  /-- Begins a branch with a condition, whether by `elseif` or by `elsif`. -/
  | elseIf (condition : Expr)
  | elseTag
  | whenTag (values : List Expr)
  | closing (kind : BlockKind)

namespace Mark

def isText : Mark → Bool
  | .text _ => true
  | _ => false

/-- Whether a mark opens a case. -/
def isCase : Mark → Bool
  | .caseTag _ => true
  | _ => false

/-- Whether a mark continues or closes a block. -/
def isTurn : Mark → Bool
  | .elseIf _ | .elseTag | .whenTag _ | .closing _ => true
  | _ => false

/-- The keywords that a tag may have. -/
def keywords : Mark → List String
  | .text _ | .output _ => []
  | .assign _ _ => ["assign"]
  | .custom name _ => [name]
  | .ifTag negated _ => [(BlockKind.conditional negated).opener]
  | .caseTag _ => [BlockKind.switch.opener]
  | .captureTag _ => [BlockKind.capture.opener]
  | .elseIf _ => ["elseif", "elsif"]
  | .elseTag => ["else"]
  | .whenTag _ => ["when"]
  | .closing kind => [kind.closer]

end Mark

namespace Tag

/-- A mark that takes no arguments. -/
def alone? (tag : Tag) (mark : Mark) : Option Mark :=
  if tag.arguments.text.isEmpty then some mark else none

/-- A tag of its own that is registered and accepts its markup. -/
def custom? (config : Config) (tag : Tag) : Option Mark :=
  let markup := String.ofList tag.arguments.text
  (config.tag? tag.keyword).bind fun custom =>
    (custom.validate markup).toOption.map fun _ => .custom tag.keyword markup

/-- What a tag says on its own; none where it can stand nowhere. -/
def mark? (config : Config) (tag : Tag) : Option Mark :=
  if tag.keyword = "if" then tag.arguments.condition.toOption.map (.ifTag false)
  else if tag.keyword = "unless" then tag.arguments.condition.toOption.map (.ifTag true)
  else if tag.keyword = "case" then tag.arguments.subject.toOption.map .caseTag
  else if tag.keyword = "capture" then tag.arguments.captureName.toOption.map .captureTag
  else if tag.keyword = "assign" then
    (tag.arguments.assignment config.hasFilter).toOption.map fun (name, value) =>
      .assign name value
  else if tag.keyword = "elseif" ∨ tag.keyword = "elsif" then
    tag.arguments.condition.toOption.map .elseIf
  else if tag.keyword = "else" then tag.alone? .elseTag
  else if tag.keyword = "when" then tag.arguments.values.toOption.map .whenTag
  else if tag.keyword = "" then none
  else
    match BlockKind.ofCloser? tag.keyword with
    | some kind => tag.alone? (.closing kind)
    | none => tag.custom? config

theorem alone?_eq_some_iff {tag : Tag} {mark other : Mark} :
    tag.alone? mark = some other ↔ tag.arguments.text = [] ∧ mark = other := by
  unfold alone?
  split <;> simp_all

theorem mark?_of_registered {config : Config} {tag : Tag} {custom : CustomTag}
    (registered : config.tag? tag.keyword = some custom) (nonempty : tag.keyword ≠ "") :
    tag.mark? config = tag.custom? config := by
  have unreserved := config.not_mem_reservedTags registered
  have open? : BlockKind.ofCloser? tag.keyword = none := by
    cases closes : BlockKind.ofCloser? tag.keyword with
    | none => rfl
    | some kind =>
        rw [BlockKind.closer_of_ofCloser? closes] at unreserved
        exact absurd kind.closer_mem_reservedTags unreserved
  simp only [Config.reservedTags, List.mem_cons, not_or] at unreserved
  simp [mark?, nonempty, open?, unreserved]

/-- How a tag bears a mark: by its keyword, and by what its arguments are read as. -/
inductive Bears (config : Config) (tag : Tag) : Mark → Prop
  | ifTag {negated : Bool} {condition : Expr}
      (key : tag.keyword = (BlockKind.conditional negated).opener)
      (read : tag.arguments.condition = .ok condition) : Bears config tag (.ifTag negated condition)
  | caseTag {subject : Expr} (key : tag.keyword = BlockKind.switch.opener)
      (read : tag.arguments.subject = .ok subject) : Bears config tag (.caseTag subject)
  | captureTag {name : String} (key : tag.keyword = BlockKind.capture.opener)
      (read : tag.arguments.captureName = .ok name) : Bears config tag (.captureTag name)
  | assign {name : String} {value : Output} (key : tag.keyword = "assign")
      (read : tag.arguments.assignment config.hasFilter = .ok (name, value)) :
      Bears config tag (.assign name value)
  | elseIf {condition : Expr} (key : tag.keyword = "elseif" ∨ tag.keyword = "elsif")
      (read : tag.arguments.condition = .ok condition) : Bears config tag (.elseIf condition)
  | elseTag (key : tag.keyword = "else") (alone : tag.arguments.text = []) :
      Bears config tag .elseTag
  | whenTag {values : List Expr} (key : tag.keyword = "when")
      (read : tag.arguments.values = .ok values) : Bears config tag (.whenTag values)
  | closing {kind : BlockKind} (key : tag.keyword = kind.closer)
      (alone : tag.arguments.text = []) : Bears config tag (.closing kind)
  | custom {custom : CustomTag} (nonempty : tag.keyword ≠ "")
      (registered : config.tag? tag.keyword = some custom)
      (accepted : custom.validate (String.ofList tag.arguments.text) = .ok ()) :
      Bears config tag (.custom tag.keyword (String.ofList tag.arguments.text))

theorem bears_of_mark? {config : Config} {tag : Tag} {mark : Mark}
    (reads : tag.mark? config = some mark) : tag.Bears config mark := by
  unfold mark? at reads
  split_ifs at reads with ifKey unlessKey caseKey captureKey assignKey elseIfKey elseKey whenKey
    emptyKey
  · obtain ⟨condition, read, rfl⟩ := Except.toOption_map_eq_some_iff.1 reads
    exact .ifTag ifKey read
  · obtain ⟨condition, read, rfl⟩ := Except.toOption_map_eq_some_iff.1 reads
    exact .ifTag unlessKey read
  · obtain ⟨subject, read, rfl⟩ := Except.toOption_map_eq_some_iff.1 reads
    exact .caseTag caseKey read
  · obtain ⟨name, read, rfl⟩ := Except.toOption_map_eq_some_iff.1 reads
    exact .captureTag captureKey read
  · obtain ⟨⟨name, value⟩, read, rfl⟩ := Except.toOption_map_eq_some_iff.1 reads
    exact .assign assignKey read
  · obtain ⟨condition, read, rfl⟩ := Except.toOption_map_eq_some_iff.1 reads
    exact .elseIf elseIfKey read
  · obtain ⟨alone, rfl⟩ := alone?_eq_some_iff.1 reads
    exact .elseTag elseKey alone
  · obtain ⟨values, read, rfl⟩ := Except.toOption_map_eq_some_iff.1 reads
    exact .whenTag whenKey read
  · cases closes : BlockKind.ofCloser? tag.keyword with
    | some kind =>
        rw [closes] at reads
        obtain ⟨alone, rfl⟩ := alone?_eq_some_iff.1 reads
        exact .closing (BlockKind.closer_of_ofCloser? closes) alone
    | none =>
        rw [closes] at reads
        obtain ⟨custom, registered, reads⟩ := Option.bind_eq_some_iff.1 reads
        obtain ⟨_, accepted, rfl⟩ := Except.toOption_map_eq_some_iff.1 reads
        exact .custom emptyKey registered accepted

theorem Bears.mark?_eq {config : Config} {tag : Tag} {mark : Mark} (bears : tag.Bears config mark) :
    tag.mark? config = some mark := by
  cases bears with
  | @ifTag negated condition key read =>
      cases negated <;> simp [mark?, key, read, BlockKind.opener]
  | caseTag key read => simp [mark?, key, read, BlockKind.opener]
  | captureTag key read => simp [mark?, key, read, BlockKind.opener]
  | assign key read => simp [mark?, key, read]
  | elseIf key read => rcases key with key | key <;> simp [mark?, key, read]
  | elseTag key alone => simp [mark?, key, alone?, alone]
  | whenTag key read => simp [mark?, key, read]
  | @closing kind key alone =>
      rcases kind with (_ | _) | _ | _ <;>
        simp [mark?, key, BlockKind.closer, BlockKind.ofCloser?, alone?, alone]
  | custom nonempty registered accepted =>
      rw [mark?_of_registered registered nonempty]
      simp [custom?, registered, accepted]

theorem mark?_eq_some_iff {config : Config} {tag : Tag} {mark : Mark} :
    tag.mark? config = some mark ↔ tag.Bears config mark :=
  ⟨bears_of_mark?, Bears.mark?_eq⟩

theorem keyword_mem_of_mark? {config : Config} {tag : Tag} {mark : Mark}
    (reads : tag.mark? config = some mark) : tag.keyword ∈ mark.keywords := by
  cases bears_of_mark? reads <;> simp_all [Mark.keywords]

/-- The keywords of the tags that continue or close blocks. -/
def turnKeywords : List String :=
  ["endif", "endunless", "endcase", "endcapture", "elseif", "elsif", "else", "when"]

theorem turnKeywords_subset : turnKeywords ⊆ Config.reservedTags := by
  decide

theorem isTurn_of_mark? {config : Config} {tag : Tag} {mark : Mark}
    (reads : tag.mark? config = some mark) (keyword : tag.keyword ∈ turnKeywords) :
    mark.isTurn := by
  cases bears_of_mark? reads with
  | @ifTag negated condition key read =>
      rw [key] at keyword
      exact absurd keyword (by cases negated <;> decide)
  | caseTag key read | captureTag key read | assign key read =>
      rw [key] at keyword
      exact absurd keyword (by decide)
  | elseIf key read | elseTag key alone | whenTag key read | closing key alone => rfl
  | custom nonempty registered accepted =>
      exact absurd (turnKeywords_subset keyword) (config.not_mem_reservedTags registered)

end Tag

namespace Segment

/-- What a segment says on its own. -/
def mark? (config : Config) : Segment → Option Mark
  | .text content => some (.text (String.ofList content))
  | .output inner position =>
      (TagInside.output config.hasFilter ⟨inner, position⟩).toOption.map .output
  | .block inner position => (Tag.ofInside inner position).mark? config

/-- What segments say is said by each of them on its own. -/
theorem exists_of_mem_mapM_mark? {config : Config} {segments : List Segment}
    {marks : List Mark} (reads : segments.mapM (mark? config) = some marks) {mark : Mark}
    (member : mark ∈ marks) : ∃ segment ∈ segments, segment.mark? config = some mark := by
  induction segments generalizing marks with
  | nil =>
      cases reads
      simp at member
  | cons segment segments ih =>
      rw [List.mapM_cons] at reads
      obtain ⟨first, here, reads⟩ := Option.bind_eq_some_iff.1 reads
      obtain ⟨later, there, reads⟩ := Option.bind_eq_some_iff.1 reads
      cases reads
      rcases List.mem_cons.1 member with rfl | behind
      · exact ⟨segment, List.mem_cons_self, here⟩
      · obtain ⟨other, known, same⟩ := ih there behind
        exact ⟨other, List.mem_cons_of_mem _ known, same⟩

end Segment

end Stencil
