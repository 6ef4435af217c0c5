import Stencil.Proofs.Block.Simulation
import Stencil.Proofs.Node.WellFormed

/-!
# Larger configurations

A configuration with more filters and tags reads what a smaller one reads in the
same way, and renders it alike.  Only the names that are registered grow: the
keywords of the language are looked at first, and none of them can be among
those names.
-/

namespace Stencil

namespace Config

/-- A configuration has all filters and tags of another, each under the same name. -/
structure Extends (extended config : Config) : Prop where
  filters : ∀ name filter, config.filter? name = some filter →
    extended.filter? name = some filter
  tags : ∀ name tag, config.tag? name = some tag → extended.tag? name = some tag

namespace Extends

theorem trans {first second third : Config} (later : third.Extends second)
    (earlier : second.Extends first) : third.Extends first where
  filters name filter registered := later.filters name filter (earlier.filters name filter registered)
  tags name tag registered := later.tags name tag (earlier.tags name tag registered)

/-- A filter is added by registering it under a name that no filter has. -/
theorem registerFilter {config : Config} {name : String} (free : config.filter? name = none)
    (filter : Filter) : (config.registerFilter name filter).Extends config where
  filters other known registered := by
    have differs : other ≠ name := by
      rintro rfl
      rw [free] at registered
      cases registered
    rw [filter?, Config.registerFilter, Entries.get?_insert, if_neg differs]
    exact registered
  tags _ _ := id

/-- A tag is added by registering it under a name that no tag has and the language allows. -/
theorem registerTag? {config extended : Config} {name : String} {tag : CustomTag}
    (free : config.tag? name = none) (accepted : config.registerTag? name tag = some extended) :
    extended.Extends config := by
  unfold Config.registerTag? at accepted
  split at accepted
  · cases accepted
  · cases accepted
    refine ⟨fun _ _ => id, fun other known registered => ?_⟩
    have differs : other ≠ name := by
      rintro rfl
      rw [free] at registered
      cases registered
    rw [tag?, Entries.get?_insert, if_neg differs]
    exact registered

theorem hasFilter {extended config : Config} (extension : extended.Extends config)
    {name : String} (known : config.hasFilter name) : extended.hasFilter name := by
  obtain ⟨filter, registered⟩ := Option.isSome_iff_exists.1 known
  exact Option.isSome_of_eq_some (extension.filters name filter registered)

end Extends

end Config

/-! ## Reading with more filters -/

section

variable {known more : String → Bool} (wider : ∀ name, known name → more name) {stop : Nat}

include wider

theorem FilterCall.ofTree_of_wider {tree : Grammar.Tree} {call : FilterCall}
    (read : ofTree known stop tree = .ok call) : ofTree more stop tree = .ok call := by
  rw [ofTree_eq_ok_iff] at read ⊢
  cases read with
  | alone registered => exact .alone (wider _ registered)
  | given registered argument => exact .given (wider _ registered) argument

theorem FilterCall.ofTrees_of_wider {trees : List Grammar.Tree} {calls : List FilterCall}
    (read : ofTrees known stop trees = .ok calls) : ofTrees more stop trees = .ok calls := by
  rw [ofTrees_eq_ok_iff] at read ⊢
  induction read with
  | done => exact .done
  | cons here _ ih => exact .cons (ofTree_of_wider wider here) ih

theorem Output.ofTrees_of_wider {trees : List Grammar.Tree} {output : Output}
    (read : ofTrees known stop trees = .ok output) : ofTrees more stop trees = .ok output := by
  obtain ⟨comparison, filters, rfl, here, behind⟩ := Output.ofTrees_eq_ok_iff.1 read
  exact Output.ofTrees_eq_ok_iff.2
    ⟨comparison, filters, rfl, here, FilterCall.ofTrees_of_wider wider behind⟩

namespace TagInside

variable {inside : TagInside}

theorem output_of_wider {value : Output} (read : inside.output known = .ok value) :
    inside.output more = .ok value := by
  obtain ⟨trees, parsed, read⟩ := Except.bind_eq_ok_iff.1 read
  rw [output, parsed]
  exact Output.ofTrees_of_wider wider read

theorem assignment_of_wider {result : String × Output}
    (read : inside.assignment known = .ok result) : inside.assignment more = .ok result := by
  obtain ⟨text, start, parts, trees, parsed, name, here⟩ := assignment_eq_ok_iff.1 read
  exact assignment_eq_ok_iff.2
    ⟨text, start, parts, trees, parsed, name, Output.ofTrees_of_wider wider here⟩

end TagInside

end

/-! ## Marks -/

section

variable {config extended : Config} (extension : extended.Extends config)

include extension

theorem Tag.mark?_of_extends {tag : Tag} {mark : Mark} (reads : tag.mark? config = some mark) :
    tag.mark? extended = some mark := by
  rw [mark?_eq_some_iff] at reads ⊢
  cases reads with
  | ifTag key read => exact .ifTag key read
  | caseTag key read => exact .caseTag key read
  | captureTag key read => exact .captureTag key read
  | assign key read =>
      exact .assign key (TagInside.assignment_of_wider (fun _ => extension.hasFilter) read)
  | elseIf key read => exact .elseIf key read
  | elseTag key alone => exact .elseTag key alone
  | whenTag key read => exact .whenTag key read
  | closing key alone => exact .closing key alone
  | custom nonempty registered accepted =>
      exact .custom nonempty (extension.tags _ _ registered) accepted

theorem Segment.mark?_of_extends {segment : Segment} {mark : Mark}
    (reads : segment.mark? config = some mark) : segment.mark? extended = some mark := by
  cases segment with
  | text content => exact reads
  | output inner position =>
      obtain ⟨value, read, rfl⟩ := Except.toOption_map_eq_some_iff.1 reads
      exact Except.toOption_map_eq_some_iff.2
        ⟨value, TagInside.output_of_wider (fun _ => extension.hasFilter) read, rfl⟩
  | block inner position => exact Tag.mark?_of_extends extension reads

theorem Segment.mapM_mark?_of_extends {segments : List Segment} {marks : List Mark}
    (reads : segments.mapM (mark? config) = some marks) :
    segments.mapM (mark? extended) = some marks := by
  induction segments generalizing marks with
  | nil => exact reads
  | cons segment segments ih =>
      rw [List.mapM_cons] at reads ⊢
      obtain ⟨first, here, reads⟩ := Option.bind_eq_some_iff.1 reads
      obtain ⟨later, there, reads⟩ := Option.bind_eq_some_iff.1 reads
      rw [mark?_of_extends extension here, ih there]
      exact reads

theorem Node.compile_eq_ok_of_extends {source : List Char} {nodes : List Node}
    (compiled : compile config source = .ok nodes) : compile extended source = .ok nodes := by
  rw [compile_eq_ok_iff] at compiled ⊢
  obtain ⟨segments, marks, scanned, reads, built⟩ := compiled
  exact ⟨segments, marks, scanned, Segment.mapM_mark?_of_extends extension reads, built⟩

/-! ## Rendering -/

section

variable {scope : Scope}

theorem FilterCall.apply_of_extends {call : FilterCall} (wellFormed : call.WellFormed config)
    (value : Value) : call.apply extended scope value = call.apply config scope value := by
  obtain ⟨filter, registered⟩ := Option.isSome_iff_exists.1 wellFormed.registered
  rw [apply, apply, registered, extension.filters _ filter registered]

theorem FilterCall.foldlM_apply_of_extends {calls : List FilterCall}
    (wellFormed : ∀ call ∈ calls, call.WellFormed config) (value : Value) :
    calls.foldlM (apply extended scope) value = calls.foldlM (apply config scope) value := by
  induction calls generalizing value with
  | nil => rfl
  | cons call calls ih =>
      obtain ⟨here, later⟩ := List.forall_mem_cons.1 wellFormed
      rw [List.foldlM_cons, List.foldlM_cons, apply_of_extends extension here]
      exact bind_congr fun next => ih later next

theorem Output.eval?_of_extends {output : Output} (wellFormed : output.WellFormed config) :
    output.eval? extended scope = output.eval? config scope := by
  rw [eval?, eval?]
  cases output.expr.eval? scope with
  | none => rfl
  | some value =>
      simp only [FilterCall.foldlM_apply_of_extends extension wellFormed.filters value]

theorem Output.text_of_extends {output : Output} (wellFormed : output.WellFormed config) :
    output.text extended scope = output.text config scope := by
  rw [text, text, eval?_of_extends extension wellFormed]

end

end

namespace Node

variable {config extended : Config}

mutual

theorem render_of_extends (extension : extended.Extends config) :
    ∀ (node : Node) (rendering : Rendering), Everywhere (WellFormed config) node →
      render extended node rendering = render config node rendering
  | .text _, _, _ => rfl
  | .output value, rendering, wellFormed => by
      have same : value.text extended rendering.scope = value.text config rendering.scope :=
        Output.text_of_extends extension wellFormed
      rw [render, render, same]
  | .conditional branches, rendering, ⟨_, inner⟩ =>
      renderBranches_of_extends extension branches rendering inner
  | .switch subject cases none, rendering, ⟨_, inner⟩ => by
      rw [render, render, renderCases_of_extends extension _ cases rendering inner]
  | .switch subject cases (some body), rendering, ⟨_, inner, last⟩ => by
      rw [render, render, renderCases_of_extends extension _ cases rendering inner,
        renderBody_of_extends extension body rendering last]
  | .capture name body, rendering, ⟨_, inner⟩ => by
      rw [render, render, renderBody_of_extends extension body _ inner]
  | .assign name value, rendering, wellFormed => by
      have same : value.eval? extended rendering.scope = value.eval? config rendering.scope :=
        Output.eval?_of_extends extension wellFormed
      rw [render, render, same]
  | .custom name markup, rendering, wellFormed => by
      obtain ⟨tag, registered⟩ := Option.isSome_iff_exists.1 wellFormed
      rw [render, render, registered, extension.tags name tag registered]

theorem renderBody_of_extends (extension : extended.Extends config) :
    ∀ (nodes : List Node) (rendering : Rendering), EverywhereBody (WellFormed config) nodes →
      renderBody extended nodes rendering = renderBody config nodes rendering
  | [], _, _ => rfl
  | node :: nodes, rendering, ⟨first, rest⟩ => by
      rw [renderBody, renderBody, render_of_extends extension node rendering first]
      cases render config node rendering with
      | error fault => rfl
      | ok next => exact renderBody_of_extends extension nodes next rest

theorem renderBranches_of_extends (extension : extended.Extends config) :
    ∀ (branches : List (Branch Node)) (rendering : Rendering),
      EverywhereBranches (WellFormed config) branches →
        renderBranches extended branches rendering = renderBranches config branches rendering
  | [], _, _ => rfl
  | ⟨_, body⟩ :: branches, rendering, ⟨first, rest⟩ => by
      rw [renderBranches, renderBranches, renderBody_of_extends extension body rendering first,
        renderBranches_of_extends extension branches rendering rest]

theorem renderCases_of_extends (extension : extended.Extends config) (subject : Value) :
    ∀ (cases : List (When Node)) (rendering : Rendering),
      EverywhereCases (WellFormed config) cases →
        renderCases extended subject cases rendering =
          renderCases config subject cases rendering
  | [], _, _ => rfl
  | ⟨_, body⟩ :: cases, rendering, ⟨first, rest⟩ => by
      rw [renderCases, renderCases, renderBody_of_extends extension body rendering first,
        renderCases_of_extends extension subject cases rendering rest]

end

/-- All nodes that a source compiles to are well formed. -/
theorem everywhere_wellFormed_of_compile {source : List Char} {nodes : List Node}
    (compiled : compile config source = .ok nodes) :
    EverywhereBody (WellFormed config) nodes := by
  obtain ⟨segments, marks, scanned, reads, built⟩ := compile_eq_ok_iff.1 compiled
  have sound := Segment.wellFormed_of_scan scanned reads
  obtain ⟨shaped, walked⟩ :=
    Outline.walk_of_build (fun mark member => (sound mark member).positive) built
  refine wellFormed_of_walkBody nodes shaped fun mark member => ?_
  rw [walked] at member
  exact sound mark (Mark.mem_of_mem_withoutPreambles member)

end Node

/-! ## Keywords -/

/--
A word of the language: what opens or closes a block or a quotation, what begins
a branch, and what sets a variable.
-/
inductive Tag.IsKeyword : String → Prop
  | opener (kind : BlockKind) : IsKeyword kind.opener
  | closer (kind : BlockKind) : IsKeyword kind.closer
  | quotation (kind : Quotation) : IsKeyword (String.ofList kind.opener)
  | quotationEnd (kind : Quotation) : IsKeyword (String.ofList kind.closer)
  | branch {word : String} (member : word ∈ ["elseif", "elsif", "else", "when"]) : IsKeyword word
  | assign : IsKeyword "assign"

/-- All words of the language are reserved. -/
theorem Tag.IsKeyword.mem_reservedTags {word : String} (keyword : IsKeyword word) :
    word ∈ Config.reservedTags := by
  cases keyword with
  | opener kind => exact kind.opener_mem_reservedTags
  | closer kind => exact kind.closer_mem_reservedTags
  | quotation kind => cases kind <;> decide
  | quotationEnd kind => cases kind <;> decide
  | branch member =>
      have branches : ∀ word ∈ ["elseif", "elsif", "else", "when"],
          word ∈ Config.reservedTags := by decide
      exact branches _ member
  | assign => decide

/-- No tag can be registered under a word of the language. -/
theorem Config.registerTag?_of_isKeyword (config : Config) {word : String}
    (keyword : Tag.IsKeyword word) (tag : CustomTag) : config.registerTag? word tag = none :=
  dif_pos keyword.mem_reservedTags

/--
What a tag with a word of the language does, in whatever blocks it stands, does
not depend on the tags that are registered.
-/
theorem Assembly.add_eq_of_isKeyword {config other : Config}
    (same : other.filters = config.filters) (assembly : Assembly) {inner : List Char}
    {position : Nat} (keyword : Tag.IsKeyword (Tag.ofInside inner position).keyword) :
    assembly.add other (.block inner position) = assembly.add config (.block inner position) := by
  have reserved := keyword.mem_reservedTags
  have filters : other.hasFilter = config.hasFilter := by
    funext name
    rw [Config.hasFilter, Config.hasFilter, same]
  have free (known : Config) : known.tag? (Tag.ofInside inner position).keyword = none :=
    known.unreserved _ reserved
  have addTag : assembly.addTag other (Tag.ofInside inner position) =
      assembly.addTag config (Tag.ofInside inner position) := by
    simp only [Assembly.addTag, filters, free]
  simp only [add, addTag]

end Stencil
