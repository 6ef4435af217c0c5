import Stencil.Proofs.Segment.Operands

/-!
# Operands that cannot be read

Where one of two tags with the same keyword can be put behind some segments, the
other one fails there as reading its operands does.
-/

namespace Stencil

variable {config : Config} {failure : Located Problem}

namespace Tag

variable {tag : Tag}

/-- The reading of operands that fails. -/
theorem reading?_eq_error_cases (reads : tag.reading? config = some (.error failure)) :
    (tag.keyword ∈ ["if", "unless", "elseif", "elsif"] ∧
      tag.arguments.condition = .error failure) ∨
    (tag.keyword = "case" ∧ tag.arguments.subject = .error failure) ∨
    (tag.keyword = "when" ∧ tag.arguments.values = .error failure) ∨
    (tag.keyword = "assign" ∧ tag.arguments.assignment config.hasFilter = .error failure) := by
  unfold reading? at reads
  split_ifs at reads with ifKey unlessKey elseIfKey caseKey whenKey assignKey <;>
    have failed := Except.map_eq_error_iff.1 (Option.some.inj reads)
  · exact .inl ⟨by simp [ifKey], failed⟩
  · exact .inl ⟨by simp [unlessKey], failed⟩
  · exact .inl ⟨by rcases elseIfKey with key | key <;> simp [key], failed⟩
  · exact .inr (.inl ⟨caseKey, failed⟩)
  · exact .inr (.inr (.inl ⟨whenKey, failed⟩))
  · exact .inr (.inr (.inr ⟨assignKey, failed⟩))

/-- A tag that continues a block and has operands begins a branch. -/
theorem turning_cases {frame : Frame} (keyword : tag.keyword ∈ frame.turnKeywords)
    (reads : tag.reading? config = some (.error failure)) :
    ((∃ branches condition, frame = .conditional false branches condition) ∧
      (tag.keyword = "elseif" ∨ tag.keyword = "elsif") ∧
      tag.arguments.condition = .error failure) ∨
    (frame.kind = .switch ∧ tag.keyword = "when" ∧ tag.arguments.values = .error failure) := by
  rcases reading?_eq_error_cases reads with ⟨key, failed⟩ | ⟨key, failed⟩ | ⟨key, failed⟩ |
    ⟨key, failed⟩
  · simp only [List.mem_cons, List.not_mem_nil, or_false] at key
    cases frame with
    | conditional negated branches condition =>
        cases negated with
        | false =>
            refine .inl ⟨⟨branches, condition, rfl⟩, ?_, failed⟩
            rcases key with key | key | key | key <;> simp_all [Frame.turnKeywords]
        | true =>
            rcases key with key | key | key | key <;> simp [key, Frame.turnKeywords] at keyword
    | _ => rcases key with key | key | key | key <;> simp [key, Frame.turnKeywords] at keyword
  · have foreign := frame.turnKeywords_subset keyword
    simp [key, turnKeywords] at foreign
  · cases frame with
    | conditional negated branches condition =>
        cases negated <;> simp [key, Frame.turnKeywords] at keyword
    | capture name => simp [key, Frame.turnKeywords] at keyword
    | _ => exact .inr ⟨rfl, key, failed⟩
  · have foreign := frame.turnKeywords_subset keyword
    simp [key, turnKeywords] at foreign

end Tag

namespace OpenBlock

variable {tag another : Tag} {block : OpenBlock} {body : List Node}

theorem turnCase_eq_error {subject : Expr} {cases : List (When Node)}
    (keyword : tag.keyword = "when") (failed : tag.arguments.values = .error failure) :
    turnCase subject cases tag = .error failure := by
  rw [turnCase, if_pos keyword, failed]
  rfl

/-- A tag turns a block, or fails with its operands, where another of its keyword turns it. -/
theorem turn_eq_error {turn : Turn} (turns : block.isTurn tag.keyword = true)
    (same : tag.keyword = another.keyword) (reads : tag.reading? config = some (.error failure))
    (turned : block.turn body another = .ok turn) : block.turn body tag = .error failure := by
  rw [isTurn_iff] at turns
  rcases Tag.turning_cases turns reads with ⟨⟨branches, condition, shape⟩, key, failed⟩ |
    ⟨kind, key, failed⟩
  · have noCloser : tag.keyword ≠ "endif" := by rcases key with key | key <;> simp [key]
    have noElse : tag.keyword ≠ "else" := by rcases key with key | key <;> simp [key]
    rw [OpenBlock.turn, shape] at turned ⊢
    simp only [Frame.closer, ← same, noCloser, noElse, if_false] at turned ⊢
    split at turned
    · cases turned
    · next conditioned =>
        rw [if_neg conditioned, failed]
        rfl
  · have noCloser : tag.keyword ≠ "endcase" := by simp [key]
    cases shape : block.frame with
    | preamble subject =>
        rw [OpenBlock.turn, shape] at turned ⊢
        obtain ⟨_, onlyText, _⟩ := Except.bind_eq_ok_iff.1 turned
        simp only [onlyText]
        exact turnCase_eq_error key failed
    | case subject cases values =>
        rw [OpenBlock.turn, shape]
        exact turnCase_eq_error key failed
    | otherwise subject cases =>
        rw [OpenBlock.turn, shape] at turned
        simp only [Frame.closer, ← same, noCloser, if_false] at turned
        cases turned
    | _ =>
        rw [shape] at kind
        cases kind

end OpenBlock

namespace Assembly

variable {assembly next : Assembly}

theorem addTag_eq_error {tag another : Tag} (same : tag.keyword = another.keyword)
    (reads : tag.reading? config = some (.error failure))
    (added : assembly.addTag config another = .ok next) :
    assembly.addTag config tag = .error failure := by
  unfold addTag at added ⊢
  rw [← same] at added
  rcases Tag.reading?_eq_error_cases reads with ⟨key, failed⟩ | ⟨key, failed⟩ | ⟨key, failed⟩ |
    ⟨key, failed⟩
  · simp only [List.mem_cons, List.not_mem_nil, or_false] at key
    rcases key with key | key | key | key
    · simp [key, failed]
    · simp [key, failed]
    · simp [key, Checked.fail] at added
    · simp [key, Checked.fail] at added
  · simp [key, failed]
  · simp [key, Checked.fail] at added
  · simp [key, failed]

theorem add_eq_error {segment another : Segment} (same : segment.keyword? = another.keyword?)
    (reads : segment.reading? config = some (.error failure))
    (added : assembly.add config another = .ok next) :
    assembly.add config segment = .error failure := by
  cases segment with
  | text content => cases reads
  | output inner position =>
      have failed := Except.map_eq_error_iff.1 (Option.some.inj reads)
      rw [add, failed]
      rfl
  | block inner position =>
      cases another with
      | text content => cases same
      | output other place => cases same
      | block other place =>
          have keyword : (Tag.ofInside inner position).keyword =
            (Tag.ofInside other place).keyword := Option.some.inj same
          unfold add at added ⊢
          dsimp only at added ⊢
          split at added
          · next block blocks opened =>
              rw [keyword]
              split at added
              · next turns =>
                  obtain ⟨turn, turned, -⟩ := Except.bind_eq_ok_iff.1 added
                  rw [if_pos turns, OpenBlock.turn_eq_error (by rwa [keyword]) keyword reads turned]
                  rfl
              · next stays =>
                  rw [if_neg stays]
                  exact addTag_eq_error keyword reads added
          · exact addTag_eq_error keyword reads added

end Assembly

/-- Behind the same segments, and whatever follows, operands that cannot be read are reported. -/
theorem Node.ofSegments_eq_error {before after others : List Segment}
    {segment another : Segment} {nodes : List Node}
    (same : segment.keyword? = another.keyword?)
    (reads : segment.reading? config = some (.error failure))
    (made : ofSegments config (before ++ another :: after) = .ok nodes) :
    ofSegments config (before ++ segment :: others) = .error failure := by
  rw [ofSegments, List.foldlM_append] at made ⊢
  obtain ⟨last, run, -⟩ := Except.bind_eq_ok_iff.1 made
  obtain ⟨assembly, begun, run⟩ := Except.bind_eq_ok_iff.1 run
  obtain ⟨next, added, -⟩ := Except.bind_eq_ok_iff.1 run
  rw [begun]
  change (assembly.add config segment >>= _) >>= _ = _
  rw [Assembly.add_eq_error same reads added]
  rfl

end Stencil
