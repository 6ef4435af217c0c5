import Stencil.Proofs.Piece.Spelling
import Stencil.Proofs.Scope

/-!
# Paths in templates

What an assign binds to the path it is given is what the text of the path
resolves to, with whatever blanks around its names.  A path may be cut in two at
any name by a variable that takes up the value between.
-/

namespace Stencil

open Grammar (isName)

namespace Expr

/-- The names of a path that can be written hold no points. -/
theorem IsPrimary.point_not_mem {delimiter : Delimiter} {names : List String}
    (isPrimary : (Expr.path names).IsPrimary delimiter) : ∀ name ∈ names, '.' ∉ name.toList := by
  obtain _ | ⟨named, -, parts⟩ := isPrimary
  refine List.forall_mem_cons.2 ⟨?_, fun name member => ?_⟩
  · exact Grammar.point_not_mem_of_forall_isIdentChar (Grammar.isIdentChar_of_mem_name named)
  · exact Grammar.point_not_mem_of_forall_isIdentChar
      (Grammar.isIdentChar_of_mem_segment (parts name member))

end Expr

namespace Scope

/-- The name in a part of the text of a path, between the points. -/
def nameOf (part : String) : String :=
  String.ofList (Text.trim part.toList)

/-- The text of a path has the value of the path, without the blanks around its names. -/
theorem resolve_intercalate (scope : Scope) {parts : List String} (nonempty : parts ≠ [])
    (plain : ∀ part ∈ parts, '.' ∉ (nameOf part).toList) :
    scope.resolve (".".intercalate parts) = (scope.lookup? (parts.map nameOf)).getD .nil := by
  have split : Text.splitPath (".".intercalate parts).toList = parts.map String.toList := by
    rw [String.toList_intercalate]
    refine Text.splitPath_intercalate_of_trim (by simpa using nonempty) fun text member => ?_
    obtain ⟨part, here, rfl⟩ := List.mem_map.1 member
    simpa [nameOf] using plain part here
  rw [resolve, split, List.map_map]
  rfl

end Scope

namespace Template

variable {config : Config} {name : String} {names : List String}

/-- The source of an assign of a path. -/
def assignPathSource (name : String) (names : List String) : String :=
  "\x7b% assign " ++ name ++ " = " ++ ".".intercalate names ++ " %\x7d"

theorem toList_assignPathSource (name : String) (names : List String) :
    (assignPathSource name names).toList =
      (Mark.assign name ⟨.path names, []⟩).piece.source ++ [] := by
  simp [assignPathSource, Mark.piece, Piece.tag, Piece.source, Piece.enclose, Delimiter.pad,
    Tag.printInside, Output.print, Expr.print, Delimiter.opening, Delimiter.closing,
    String.toList_intercalate]

theorem compile_assignPathSource (named : isName name.toList)
    (isPrimary : (Expr.path names).IsPrimary .block) :
    compile config (assignPathSource name names) =
      .ok ⟨[.assign name ⟨.path names, []⟩], config⟩ := by
  have printable : (Mark.assign name ⟨.path names, []⟩).Printable config :=
    ⟨named, .primary isPrimary, by simp⟩
  have spelled := Mark.Spelled.cons printable.denotes
    (by simp [Mark.piece, Piece.tag, Piece.isText]) .nil
  exact compile_of_spelled (toList_assignPathSource name names) spelled rfl

theorem renderBody_assign_path (rendering : Rendering) (name : String) (names : List String) :
    Node.renderBody config [.assign name ⟨.path names, []⟩] rendering =
      .ok (rendering.set name ((rendering.scope.lookup? names).getD .nil)) := by
  simp only [Node.renderBody, Node.render, Output.eval?, Expr.eval?]
  cases rendering.scope.lookup? names <;> rfl

/--
Lookups compose.  A path that goes on from one without value is without value,
and one that goes on from a value leads where the rest of it leads from a
variable that has been set to this value; from nil on everything is nil, be it
of a missing variable, of something that a value lacks, or the value itself.  A
path is without value only where it asks an object for a name for which this has
neither a field nor a method.  The text of a path, with blanks around its names,
resolves to what an assign of the path binds.
-/
theorem lookup?_composes (config : Config) (scope : Scope) :
    (∀ path names, path ≠ [] →
      (scope.lookup? path = none → scope.lookup? (path ++ names) = none) ∧
        (scope.lookup? path = some .nil → scope.lookup? (path ++ names) = some .nil) ∧
        ∀ value, scope.lookup? path = some value → ∀ fresh,
          scope.lookup? (path ++ names) = (scope.set fresh value).lookup? (fresh :: names)) ∧
    (∀ root, scope.get? root = none → ∀ names, scope.lookup? (root :: names) = some .nil) ∧
    (∀ path value name, path ≠ [] → scope.lookup? path = some value → value.Lacks name →
      ∀ names, scope.lookup? (path ++ name :: names) = some .nil) ∧
    (∀ path, scope.lookup? path = none ↔
      ∃ before name behind host, before ≠ [] ∧ path = before ++ name :: behind ∧
        scope.lookup? before = some (.object host) ∧
          host.field name = none ∧ host.method name = none) ∧
    ∀ parts name, (Expr.path (parts.map Scope.nameOf)).IsPrimary .block → isName name.toList →
      scope.resolve (".".intercalate parts) =
          (scope.lookup? (parts.map Scope.nameOf)).getD .nil ∧
        ∃ template,
          compile config (assignPathSource name (parts.map Scope.nameOf)) = .ok template ∧
          ∀ output, Node.renderBody config template.nodes ⟨scope, output⟩ =
            .ok ⟨scope.set name (scope.resolve (".".intercalate parts)), output⟩ := by
  refine ⟨fun path names nonempty => ⟨fun unresolved => ?_, fun found => ?_,
      fun value found fresh => ?_⟩, fun root missing names => ?_,
    fun path value name nonempty found lacks names => ?_, fun path => Scope.lookup?_eq_none_iff,
    fun parts name isPrimary named => ?_⟩
  · exact Scope.lookup?_append_of_eq_none unresolved names
  · rw [Scope.lookup?_append_of_eq_some nonempty found, Value.follow?_nil]
  · rw [Scope.lookup?_append_of_eq_some nonempty found, Scope.lookup?_set]
  · rw [Scope.lookup?_cons, missing, Option.getD_none, Value.follow?_nil]
  · rw [Scope.lookup?_append_of_eq_some nonempty found, Value.follow?, lacks.member?_eq]
    exact Value.follow?_nil names
  · have nonempty : parts ≠ [] := by
      rintro rfl
      cases isPrimary
    have plain : ∀ part ∈ parts, '.' ∉ (Scope.nameOf part).toList := fun part member =>
      isPrimary.point_not_mem _ (List.mem_map_of_mem member)
    have resolved := scope.resolve_intercalate nonempty plain
    refine ⟨resolved, _, compile_assignPathSource named isPrimary, fun output => ?_⟩
    rw [renderBody_assign_path, resolved]
    rfl

/-- A nil member of an object, one that it does not have, and a path between blanks. -/
theorem lookup?_composes_ghola :
    let host : HostObject Value :=
      ⟨0, fun name => if name = "master" then some .nil else none,
        fun name => if name = "name" then some (.string "Duncan") else none, none, "Host"⟩
    let data : Context := ⟨[("gholas", .sequence [.object host])]⟩
    let scope := Scope.start data (Moment.ofDate ⟨0⟩)
    scope.lookup? ["gholas", "first", "name", "size"] =
        (scope.set "t" (.object host)).lookup? ["t", "name", "size"] ∧
      scope.lookup? ["gholas", "first", "master", "name"] = some .nil ∧
      scope.lookup? ["gholas", "first", "eyes", "color"] = none ∧
      ∃ template, compile .empty (assignPathSource "x" ["gholas", "0", "name"]) = .ok template ∧
        ∀ output, Node.renderBody .empty template.nodes ⟨scope, output⟩ =
          .ok ⟨scope.set "x" (scope.resolve " gholas.0 .\tname"), output⟩ := by
  intro host data scope
  obtain ⟨composes, -, lacking, unresolved, texts⟩ := lookup?_composes .empty scope
  have found : scope.lookup? ["gholas", "first"] = some (.object host) := rfl
  have isPrimary : (Expr.path ["gholas", "0", "name"]).IsPrimary .block :=
    .path (by decide) (by decide) (by decide)
  refine ⟨(composes _ ["name", "size"] (by simp)).2.2 _ found "t",
    lacking _ _ "master" (by simp) found (.field rfl) ["name"],
    (unresolved _).2 ⟨["gholas", "first"], "eyes", ["color"], host, by simp, rfl, found, rfl, rfl⟩,
    ?_⟩
  exact (texts [" gholas", "0 ", "\tname"] "x" isPrimary (by decide)).2

end Template

end Stencil
