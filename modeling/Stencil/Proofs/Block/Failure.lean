import Stencil.Proofs.Segment.Tags

/-!
# Where blocks are wrong

Putting segments together fails inside one of them: in the tag that is at
fault, or in the tag that opened a block which is still open.  Only at the end
of the source is a block reported that is never closed.
-/

namespace Stencil

namespace Checked

variable {α β : Type} {allowed : Located Problem → Prop} {good : α → Prop}

/-- A result that is an allowed failure, or is a good value. -/
structure Meets (allowed : Located Problem → Prop) (good : α → Prop) (result : Checked α) :
    Prop where
  fails : Fails allowed result
  good_of_ok : ∀ value, result = .ok value → good value

namespace Meets

theorem ok {value : α} (here : good value) : Meets allowed good (.ok value) :=
  ⟨.ok value, by rintro _ ⟨⟩; exact here⟩

theorem fail {problem : Problem} {position : Nat} (here : allowed ⟨problem, position⟩) :
    Meets allowed good (Checked.fail problem position) :=
  ⟨.fail here, by rintro _ ⟨⟩⟩

theorem ite {condition : Prop} [Decidable condition] {first second : Checked α}
    (met : Meets allowed good first) (otherwise : Meets allowed good second) :
    Meets allowed good (if condition then first else second) := by
  split_ifs
  · exact met
  · exact otherwise

theorem bind {first : Checked β} {next : β → Checked α} (fails : Fails allowed first)
    (later : ∀ value, first = .ok value → Meets allowed good (next value)) :
    Meets allowed good (first >>= next) := by
  cases first with
  | error failure => exact ⟨.bind fails (by rintro _ ⟨⟩), by rintro _ ⟨⟩⟩
  | ok value => exact later value rfl

end Meets

end Checked

open Checked (Fails Meets)

/-- What is wrong at an allowed position before the end of the source. -/
structure Refuses (allowed : Nat → Prop) (failure : Located Problem) : Prop where
  position : allowed failure.position
  ne_neverClosed : ∀ opener closer, failure.content ≠ .neverClosed opener closer

variable {allowed : Nat → Prop}

/-- What is wrong with the inside of a tag is no block that is never closed. -/
theorem TagInside.Reports.refuses {inside : TagInside} {failure : Located Problem}
    (reports : inside.Reports failure)
    (covered : ∀ position, inside.Covers position → allowed position) :
    Refuses allowed failure := by
  refine ⟨covered _ reports.covers, fun opener closer same => ?_⟩
  have kind_eq := reports.kind_eq
  simp [same, Problem.kind] at kind_eq

namespace Tag

/-- What the arguments of a tag cover is covered by its inside. -/
theorem covers_ofInside {inner : List Char} {start position : Nat}
    (covers : (ofInside inner start).arguments.Covers position) :
    TagInside.Covers ⟨inner, start⟩ position := by
  obtain ⟨first, rest, split, same⟩ := covers
  have ends : (ofInside inner start).arguments.text <:+ inner :=
    (List.dropWhile_suffix _).trans (List.dropWhile_suffix _)
  obtain ⟨lead, whole⟩ := ends
  refine ⟨lead ++ first, rest, by rw [List.append_assoc, ← split, whole], ?_⟩
  have width := congrArg Text.width whole
  rw [Text.width_append] at width
  rw [same, Text.width_append, ← Nat.add_assoc]
  simp only [ofInside] at width ⊢
  omega

/-- Every byte position in the inside of a tag is allowed. -/
structure Allows (allowed : Nat → Prop) (tag : Tag) : Prop where
  position : allowed tag.position
  arguments : ∀ position, tag.arguments.Covers position → allowed position

theorem allows_ofInside {inner : List Char} {start : Nat}
    (inside : ∀ position, TagInside.Covers ⟨inner, start⟩ position → allowed position) :
    (ofInside inner start).Allows allowed :=
  ⟨inside start TagInside.covers_position, fun position covers =>
    inside position (covers_ofInside covers)⟩

variable {tag : Tag} (allows : tag.Allows allowed)

include allows

/-- What is read from the arguments of a tag fails where the tag allows. -/
theorem Allows.fails {α : Type} {result : Checked α}
    (fails : Fails tag.arguments.Reports result) : Fails (Refuses allowed) result :=
  fails.imp fun _ reports => reports.refuses allows.arguments

theorem Allows.refuses {problem : Problem}
    (other : ∀ opener closer, problem ≠ .neverClosed opener closer) :
    Refuses allowed ⟨problem, tag.position⟩ :=
  ⟨allows.position, other⟩

theorem Allows.refuses_arguments {problem : Problem}
    (other : ∀ opener closer, problem ≠ .neverClosed opener closer) :
    Refuses allowed ⟨problem, tag.arguments.position⟩ :=
  ⟨allows.arguments _ TagInside.covers_position, other⟩

theorem Allows.fails_expectAlone : Fails (Refuses allowed) tag.expectAlone := by
  unfold expectAlone
  split
  · exact .ok ()
  · exact .fail (allows.refuses_arguments nofun)

end Tag

namespace OpenBlock

/-! ## Turns -/

theorem fails_expectOnlyText {block : OpenBlock} (opened : allowed block.position)
    (body : List Node) : Fails (Refuses allowed) (block.expectOnlyText body) := by
  unfold expectOnlyText
  split
  · exact .ok ()
  · exact .fail ⟨opened, nofun⟩

theorem fails_unclosed {block : OpenBlock} (opened : allowed block.position)
    (body : List Node) :
    Fails (fun failure => allowed failure.position) (block.unclosed body) := by
  have onlyText := (fails_expectOnlyText opened body).imp fun _ refuses => refuses.position
  unfold unclosed
  split
  · exact .bind onlyText fun _ _ => .fail opened
  · exact .bind (.ok ()) fun _ _ => .fail opened

variable {tag : Tag} (allows : tag.Allows allowed)

include allows

theorem fails_turnCase (subject : Expr) (cases : List (When Node)) :
    Fails (Refuses allowed) (turnCase subject cases tag) := by
  unfold turnCase
  split_ifs
  · exact .bind (allows.fails TagInside.fails_values) fun _ _ => .ok _
  · exact .bind allows.fails_expectAlone fun _ _ => .ok _
  · exact .bind allows.fails_expectAlone fun _ _ => .ok _

theorem fails_turn {block : OpenBlock} (opened : allowed block.position) (body : List Node) :
    Fails (Refuses allowed) (block.turn body tag) := by
  unfold turn
  split
  · dsimp only
    split_ifs
    · exact .bind allows.fails_expectAlone fun _ _ => .ok _
    · exact .fail (allows.refuses (by simp))
    · exact .bind allows.fails_expectAlone fun _ _ => .ok _
    · exact .bind (allows.fails TagInside.fails_condition) fun _ _ => .ok _
  · exact .bind (fails_expectOnlyText opened body) fun _ _ => fails_turnCase allows _ _
  · exact fails_turnCase allows _ _
  · split_ifs
    · exact .bind allows.fails_expectAlone fun _ _ => .ok _
    · exact .fail (allows.refuses (by simp))
  · exact .bind allows.fails_expectAlone fun _ _ => .ok _

end OpenBlock

namespace Assembly

/-! ## One segment after the other -/

/-- The tags that opened the blocks which are open stand at allowed positions. -/
def Allows (allowed : Nat → Prop) (assembly : Assembly) : Prop :=
  ∀ block ∈ assembly.blocks, allowed block.position

theorem allows_empty : empty.Allows allowed := by
  simp [Allows, empty]

theorem Allows.enter {assembly : Assembly} (allows : assembly.Allows allowed) {tag : Tag}
    (here : allowed tag.position) (frame : Frame) : (assembly.enter tag frame).Allows allowed :=
  List.forall_mem_cons.2 ⟨here, allows⟩

variable {assembly : Assembly} (opened : assembly.Allows allowed)

include opened

/-- A tag that does not turn a block opens one at most, and closes none. -/
theorem Allows.addTag (config : Config) {tag : Tag} (allows : tag.Allows allowed) :
    Meets (Refuses allowed) (Allows allowed) (assembly.addTag config tag) := by
  unfold Assembly.addTag
  refine .ite ?_ (.ite ?_ (.ite ?_ (.ite ?_ (.ite ?_ (.ite ?_ (.ite ?_ ?_))))))
  · exact .bind (allows.fails TagInside.fails_condition) fun _ _ =>
      .ok (opened.enter allows.position _)
  · exact .bind (allows.fails TagInside.fails_condition) fun _ _ =>
      .ok (opened.enter allows.position _)
  · exact .bind (allows.fails TagInside.fails_subject) fun _ _ =>
      .ok (opened.enter allows.position _)
  · exact .bind (allows.fails TagInside.fails_captureName) fun _ _ =>
      .ok (opened.enter allows.position _)
  · exact .bind (allows.fails (TagInside.fails_assignment _)) fun _ _ => .ok opened
  · exact .fail (allows.refuses nofun)
  · exact .fail (allows.refuses nofun)
  · split
    · dsimp only
      split
      · exact .ok opened
      · exact .fail (allows.refuses_arguments nofun)
    · exact .ite (.fail (allows.refuses nofun)) (.fail (allows.refuses nofun))

theorem Allows.add (config : Config) {segment : Segment}
    (inside : ∀ position, segment.Covers position → allowed position) :
    Meets (Refuses allowed) (Allows allowed) (assembly.add config segment) := by
  unfold Assembly.add
  split
  · exact .ok opened
  · exact .bind ((TagInside.fails_output _).imp fun _ reports => reports.refuses inside)
      fun _ _ => .ok opened
  · have allows := Tag.allows_ofInside inside
    dsimp only
    split
    · next block blocks same =>
        have all : ∀ other ∈ block :: blocks, allowed other.position := by
          rw [← same]
          exact opened
        obtain ⟨here, others⟩ := List.forall_mem_cons.1 all
        -- A turn keeps the position of its block, or takes it away.
        refine .ite (.bind (OpenBlock.fails_turn allows here _) fun turn _ => ?_)
          (opened.addTag config allows)
        cases turn with
        | branch frame => exact .ok (List.forall_mem_cons.2 ⟨here, others⟩)
        | close node => exact .ok others
    · exact opened.addTag config allows

theorem Allows.foldlM_add (config : Config) {segments : List Segment}
    (inside : ∀ segment ∈ segments, ∀ position, segment.Covers position → allowed position) :
    Meets (Refuses allowed) (Allows allowed) (segments.foldlM (Assembly.add config) assembly) := by
  induction segments generalizing assembly with
  | nil => exact .ok opened
  | cons segment segments ih =>
      obtain ⟨here, later⟩ := List.forall_mem_cons.1 inside
      obtain ⟨fails, stays⟩ := opened.add config here
      rw [List.foldlM_cons]
      exact .bind fails fun next added => ih (stays next added) later

theorem Allows.fails_finish :
    Fails (fun failure => allowed failure.position) assembly.finish := by
  unfold finish
  split
  · exact .ok _
  · next block blocks same =>
      exact OpenBlock.fails_unclosed (opened block (same ▸ List.mem_cons_self)) _

end Assembly

/-- Segments are put together, or what is wrong is inside one of them. -/
theorem Node.fails_ofSegments (config : Config) {segments : List Segment}
    (inside : ∀ segment ∈ segments, ∀ position, segment.Covers position → allowed position) :
    Fails (fun failure => allowed failure.position) (ofSegments config segments) := by
  obtain ⟨fails, stays⟩ := Assembly.allows_empty.foldlM_add config inside
  exact .bind (fails.imp fun _ refuses => refuses.position) fun assembly added =>
    (stays assembly added).fails_finish

end Stencil
