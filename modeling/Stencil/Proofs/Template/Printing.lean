import Stencil.Proofs.Block.Building
import Stencil.Proofs.Node.Printing

/-!
# Printed templates

Compiling undoes printing: nodes that can be written are what their source
compiles to.
-/

namespace Stencil

namespace Node

/-- The source of nodes. -/
def print (nodes : List Node) : String :=
  String.ofList (Mark.print (walkBody nodes))

end Node

namespace Template

/-- The nodes of a template that can be written. -/
structure Printable (config : Config) (nodes : List Node) : Prop where
  everywhere : Node.EverywhereBody (Node.Printable config) nodes
  spaced : Node.Spaced nodes

theorem compile_print {config : Config} {nodes : List Node} (printable : Printable config nodes) :
    compile config (Node.print nodes) = .ok ⟨nodes, config⟩ := by
  have written := Node.written_walkBody nodes printable.everywhere printable.spaced
  have shaped := Node.EverywhereBody.imp (fun _ => Node.Printable.shaped) nodes
    printable.everywhere
  rw [compile_eq_ok_iff]
  refine ⟨?_, rfl⟩
  rw [Node.print, String.toList_ofList, Node.compile_eq_ok_iff_tiles]
  exact ⟨_, _, Mark.tiles_print written.printable written.separated,
    Mark.marks?_map_piece written.printable, Node.build_walkBody shaped⟩

/-- A filter, a registered tag, an `unless` and a path that looks like a keyword. -/
theorem compile_print_unless :
    let config : Config :=
      { filters := [("plus", fun _ value _ => .ok value)]
        tags := [("note", ⟨fun _ => .ok (), fun _ _ output => output⟩)]
        unreserved := by decide }
    let nodes : List Node :=
      [.text "a ", .output ⟨.path ["or", "0"], [⟨"plus", some (.literal (.ofInt (-1)))⟩]⟩,
        .conditional
          [⟨some (.not (.logic .and (.path ["nile"])
              (.comparison .less (.path ["x"]) (.literal (.bool true))))),
            [.custom "note" "a b"]⟩,
          ⟨none, [.text "-"]⟩]]
    Node.print nodes = "a {{ or.0 | plus: -1 }}{% unless nile and x < true %}" ++
        "{% note a b %}{% else %}-{% endunless %}" ∧
      Printable config nodes ∧ compile config (Node.print nodes) = .ok ⟨nodes, config⟩ := by
  intro config nodes
  have condition : Expr.IsCondition .block (.logic .and (.path ["nile"])
      (.comparison .less (.path ["x"]) (.literal (.bool true)))) :=
    .logic (.primary (.path (by decide) (by decide) (by simp)))
      (.comparison (.comparison (.path (by decide) (by decide) (by simp)) (.literal (.bool true))))
  have output : Output.Printable config .output
      ⟨.path ["or", "0"], [⟨"plus", some (.literal (.ofInt (-1)))⟩]⟩ :=
    { comparison := .primary (.path (by decide) (by decide) (by simp; decide))
      filters := by
        intro call member
        obtain rfl := List.mem_singleton.1 member
        refine ⟨by decide, by decide, fun argument given => ?_⟩
        obtain rfl := Option.some.inj given
        exact .literal (.integer (by decide)) }
  have custom : CustomTag.Printable config "note" "a b" :=
    { accepted := ⟨_, rfl, rfl⟩
      word := ⟨by decide, by simp [Text.isBlank]⟩
      trimmed := by decide +kernel
      free := by decide +kernel }
  have printable : Printable config nodes := by
    refine ⟨⟨⟨by decide, ?_, by decide⟩, output,
      ⟨⟨.unlessTag condition (.inr rfl), ?_⟩, ⟨custom, trivial⟩,
        ⟨⟨by decide, ?_, by decide⟩, trivial⟩, trivial⟩, trivial⟩, ?_⟩
    · intro delimiter
      cases delimiter <;> decide +kernel
    · simp [Node.Spaced]
    · intro delimiter
      cases delimiter <;> decide +kernel
    · simp [Node.Spaced, nodes, Node.isText]
  exact ⟨by decide +kernel, printable, compile_print printable⟩

end Template

end Stencil
