import Mathlib.Tactic.SplitIfs
import Stencil.Grammar.Peg

/-!
# Places in a text that is read

Whatever a grammar reads begins inside the text, and so does whatever it reports
as expected.  A place is given by what remains of the text from there on.
-/

namespace Stencil

namespace Grammar

/-- A tree and all its parts begin at places of a text. -/
inductive Tree.Within (text : List Char) : Tree → Prop
  | mk {rule : Rule} {content start : List Char} {children : List Tree}
      (starts : start <:+ text) (inner : ∀ child ∈ children, Within text child) :
      Within text ⟨rule, content, start, children⟩

namespace Tree.Within

variable {text : List Char}

theorem start_suffix {tree : Tree} (within : tree.Within text) : tree.start <:+ text := by
  obtain ⟨starts, -⟩ := within
  exact starts

theorem of_child {rule : Rule} {content start : List Char} {children : List Tree}
    (within : Tree.Within text ⟨rule, content, start, children⟩) :
    ∀ child ∈ children, child.Within text := by
  obtain ⟨-, inner⟩ := within
  exact inner

end Tree.Within

/-- What remains of a text from the furthest place on at which a rule has failed. -/
def Attempts.Within (text : List Char) (attempts : Attempts) : Prop :=
  ∃ rest, rest <:+ text ∧ attempts.remaining = Text.width rest

theorem suffix_skipBlanks {text input : List Char} (inside : input <:+ text) :
    skipBlanks input <:+ text :=
  (List.dropWhile_suffix isTagBlank).trans inside

namespace Peg

variable {text : List Char}

/-! ## What is read -/

/-- A repetition stays in the text, and reads only what its steps read. -/
theorem spec_repeatStep {α : Type} {good : α → Prop} {step : List Char → Reading α}
    (spec : ∀ {input rest found}, input <:+ text → step input = some (found, rest) →
      rest <:+ text ∧ ∀ part ∈ found, good part)
    (bound : List Char) {input : List Char} (inside : input <:+ text) :
    (repeatStep step bound input).2 <:+ text ∧
      ∀ part ∈ (repeatStep step bound input).1, good part := by
  induction bound generalizing input with
  | nil => exact ⟨inside, by simp [repeatStep]⟩
  | cons _ bound ih =>
      rw [repeatStep]
      cases taken : step input with
      | none => exact ⟨inside, by simp⟩
      | some reading =>
          obtain ⟨found, rest⟩ := reading
          obtain ⟨stays, here⟩ := spec inside taken
          obtain ⟨ends, later⟩ := ih stays
          exact ⟨ends, List.forall_mem_append.2 ⟨here, later⟩⟩

theorem suffix_of_consume (grammar : Peg) {input rest found : List Char}
    (inside : input <:+ text) (consumed : grammar.consume input = some (found, rest)) :
    rest <:+ text := by
  induction grammar generalizing input rest found with
  | satisfy accepts =>
      cases input with
      | nil => cases consumed
      | cons char input =>
          simp only [consume] at consumed
          split_ifs at consumed
          cases consumed
          exact (List.suffix_cons char _).trans inside
  | literal word =>
      obtain ⟨behind, found, same⟩ := Option.map_eq_some_iff.1 consumed
      cases same
      exact (List.suffix_append word _).trans (Text.eq_append_of_after found ▸ inside)
  | andThen first second firstIH secondIH =>
      simp only [consume] at consumed
      split at consumed
      · cases consumed
      · next here =>
          obtain ⟨⟨later, last⟩, there, same⟩ := Option.map_eq_some_iff.1 consumed
          cases same
          exact secondIH (firstIH inside here) there
  | orElse first second firstIH secondIH =>
      simp only [consume] at consumed
      split at consumed
      · exact secondIH inside consumed
      · next here =>
          cases consumed
          exact firstIH inside here
  | optional body ih =>
      simp only [consume] at consumed
      split at consumed
      · cases consumed
        exact inside
      · next here =>
          cases consumed
          exact ih inside here
  | many body ih =>
      have spec := @spec_repeatStep text Char (fun _ => True) body.consume
        (fun inside here => ⟨ih inside here, fun _ _ => trivial⟩) input input inside
      rw [Option.some.inj consumed] at spec
      exact spec.1
  | notAhead body =>
      simp only [consume] at consumed
      split at consumed
      · cases consumed
        exact inside
      · cases consumed
  | finish =>
      simp only [consume] at consumed
      split_ifs at consumed
      cases consumed
      exact List.nil_suffix
  | node rule body ih => exact ih inside consumed
  | leaf rule body ih => exact ih inside consumed

/-- What an expression reads as it stands leaves the text, and has no trees. -/
theorem spec_of_map_consume {grammar : Peg} {input rest : List Char} {trees : List Tree}
    (inside : input <:+ text)
    (read : (grammar.consume input).map (fun (_, rest) => ([], rest)) = some (trees, rest)) :
    rest <:+ text ∧ ∀ tree ∈ trees, tree.Within text := by
  obtain ⟨⟨found, behind⟩, consumed, same⟩ := Option.map_eq_some_iff.1 read
  cases same
  exact ⟨suffix_of_consume grammar inside consumed, by simp⟩

theorem spec_of_read (grammar : Peg) {input rest : List Char} {trees : List Tree}
    (inside : input <:+ text) (read : grammar.read input = some (trees, rest)) :
    rest <:+ text ∧ ∀ tree ∈ trees, tree.Within text := by
  induction grammar generalizing input rest trees with
  | andThen first second firstIH secondIH =>
      simp only [Peg.read] at read
      split at read
      · cases read
      · next here =>
          obtain ⟨⟨later, last⟩, there, same⟩ := Option.map_eq_some_iff.1 read
          cases same
          obtain ⟨stays, begins⟩ := firstIH inside here
          obtain ⟨ends, goesOn⟩ := secondIH (suffix_skipBlanks stays) there
          exact ⟨ends, List.forall_mem_append.2 ⟨begins, goesOn⟩⟩
  | orElse first second firstIH secondIH =>
      simp only [Peg.read] at read
      split at read
      · exact secondIH inside read
      · next here =>
          cases read
          exact firstIH inside here
  | optional body ih =>
      simp only [Peg.read] at read
      split at read
      · cases read
        exact ⟨inside, by simp⟩
      · next here =>
          cases read
          exact ih inside here
  | many body ih =>
      have spec := spec_repeatStep (fun inside here => ih (suffix_skipBlanks inside) here)
        input inside
      rwa [Option.some.inj read] at spec
  | node rule body ih =>
      obtain ⟨⟨children, last⟩, here, same⟩ := Option.map_eq_some_iff.1 read
      cases same
      obtain ⟨ends, inner⟩ := ih inside here
      exact ⟨ends, List.forall_mem_singleton.2 (.mk inside inner)⟩
  | leaf rule body =>
      obtain ⟨⟨found, last⟩, here, same⟩ := Option.map_eq_some_iff.1 read
      cases same
      exact ⟨suffix_of_consume body inside here,
        List.forall_mem_singleton.2 (.mk inside (by simp))⟩
  | satisfy accepts => exact spec_of_map_consume inside read
  | literal word => exact spec_of_map_consume inside read
  | notAhead body => exact spec_of_map_consume inside read
  | finish => exact spec_of_map_consume inside read

/-! ## What is expected -/

theorem within_note {earlier attempts : Attempts} {rule : Rule} {input : List Char}
    (inside : input <:+ text) (known : attempts.Within text) :
    (earlier.note attempts rule (Text.width input)).Within text := by
  simp only [Attempts.note]
  split_ifs
  · exact known
  · exact ⟨input, inside, rfl⟩
  · exact ⟨input, inside, rfl⟩
  · exact known

theorem within_traceSteps {step : List Char → Reading Tree}
    {visit : List Char → Attempts → Attempts}
    (stays : ∀ {input rest found}, input <:+ text → step input = some (found, rest) →
      rest <:+ text)
    (visits : ∀ {input attempts}, input <:+ text → Attempts.Within text attempts →
      (visit input attempts).Within text)
    (bound : List Char) {input : List Char} {attempts : Attempts} (inside : input <:+ text)
    (known : attempts.Within text) : (traceSteps step visit bound input attempts).Within text := by
  induction bound generalizing input attempts with
  | nil => exact visits inside known
  | cons _ bound ih =>
      rw [traceSteps]
      split
      · exact visits inside known
      · next taken => exact ih (stays inside taken) (visits inside known)

theorem within_trace (grammar : Peg) {input : List Char} {attempts : Attempts}
    (inside : input <:+ text) (known : attempts.Within text) :
    (grammar.trace input attempts).Within text := by
  induction grammar generalizing input attempts with
  | andThen first second firstIH secondIH =>
      rw [trace]
      split
      · exact firstIH inside known
      · next here =>
          have stays := (spec_of_read first inside here).1
          exact secondIH (suffix_skipBlanks stays) (firstIH inside known)
  | orElse first second firstIH secondIH =>
      rw [trace]
      split
      · exact secondIH inside (firstIH inside known)
      · exact firstIH inside known
  | optional body ih => exact ih inside known
  | many body ih =>
      exact within_traceSteps
        (fun inside here => (spec_of_read body (suffix_skipBlanks inside) here).1)
        (fun inside known => ih (suffix_skipBlanks inside) known) input inside known
  | node rule body ih =>
      simp only [trace]
      split
      · exact within_note inside (ih inside known)
      · exact ih inside known
  | leaf rule body =>
      simp only [trace]
      split
      · exact within_note inside known
      · exact known
  | satisfy accepts => exact known
  | literal word => exact known
  | notAhead body => exact known
  | finish => exact known

theorem within_of_parse_eq_ok {grammar : Peg} {trees : List Tree}
    (parsed : grammar.parse text = .ok trees) : ∀ tree ∈ trees, tree.Within text := by
  unfold parse at parsed
  split at parsed
  · next read =>
      cases parsed
      exact (spec_of_read grammar List.suffix_rfl read).2
  · cases parsed

theorem within_of_parse_eq_error {grammar : Peg} {attempts : Attempts}
    (failed : grammar.parse text = .error attempts) : attempts.Within text := by
  unfold parse at failed
  split at failed
  · cases failed
  · cases failed
    exact within_trace grammar List.suffix_rfl ⟨text, List.suffix_rfl, rfl⟩

end Peg

end Grammar

end Stencil
