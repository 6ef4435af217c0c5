import Stencil.Proofs.Grammar.Numeral

/-!
# Where numerals begin

A numeral that is read in a tag stands at the beginning of what is read, or
behind a character that no name or number could go on with: it is never the end
of a longer name or number.
-/

namespace Stencil

namespace Grammar

mutual

/-- The numerals in a tree, from left to right. -/
def Tree.numerals : Tree → List Tree
  | ⟨rule, text, start, children⟩ =>
      if rule = .float ∨ rule = .int then [⟨rule, text, start, children⟩]
      else Tree.numeralsOf children

/-- The numerals in trees, from left to right. -/
def Tree.numeralsOf : List Tree → List Tree
  | [] => []
  | tree :: trees => tree.numerals ++ Tree.numeralsOf trees

end

open Stencil.Grammar.Tree (numeralsOf)

@[simp]
theorem Tree.numeralsOf_append (trees others : List Tree) :
    numeralsOf (trees ++ others) = numeralsOf trees ++ numeralsOf others := by
  induction trees with
  | nil => rfl
  | cons tree trees ih => rw [List.cons_append, numeralsOf, numeralsOf, ih, List.append_assoc]

theorem Tree.mem_numeralsOf {leaf : Tree} {trees : List Tree} :
    leaf ∈ numeralsOf trees ↔ ∃ tree ∈ trees, leaf ∈ tree.numerals := by
  induction trees with
  | nil => simp [numeralsOf]
  | cons tree trees ih => simp [numeralsOf, ih]

/-- A tree of another rule has the numerals of its parts. -/
theorem Tree.numeralsOf_singleton {rule : Rule} (other : rule ≠ .float ∧ rule ≠ .int)
    (text start : List Char) (children : List Tree) :
    numeralsOf [⟨rule, text, start, children⟩] = numeralsOf children := by
  simp [numeralsOf, numerals, other]

theorem Tree.Within.suffix_of_mem_numerals {text : List Char} {tree : Tree}
    (within : tree.Within text) : ∀ leaf ∈ tree.numerals, leaf.start <:+ text := by
  induction within with
  | mk starts inner ih =>
      intro leaf member
      rw [Tree.numerals] at member
      split at member
      · rw [List.mem_singleton.1 member]
        exact starts
      · obtain ⟨child, here, inside⟩ := Tree.mem_numeralsOf.1 member
        exact ih child here leaf inside

/-- The tree of a numeral that was read where it stands. -/
def Tree.Stands (tree : Tree) : Prop :=
  ∃ rule text rest, tree = ⟨rule, text, text ++ rest, []⟩ ∧ IsNumeral rest rule text

/-- Nothing at the end of a text could go on with what follows. -/
def Sealed (front : List Char) : Prop :=
  ∀ char, front.getLast? = some char → isInnerChar char = false

instance (front : List Char) : Decidable (Sealed front) :=
  decidable_of_iff (front.getLast?.all fun char => !isInnerChar char) (by
    simp [Sealed, Option.all_eq_true])

theorem sealed_nil : Sealed [] := by
  decide

theorem Sealed.append {front : List Char} (closed : Sealed front) (nonempty : front ≠ [])
    (before : List Char) : Sealed (before ++ front) := by
  rwa [Sealed, List.getLast?_append_of_ne_nil _ nonempty]

theorem Sealed.of_suffix {front text : List Char} (closed : Sealed text) (suffix : front <:+ text) :
    Sealed front := by
  obtain ⟨before, rfl⟩ := suffix
  by_cases empty : front = []
  · rw [empty]
    exact sealed_nil
  · rwa [Sealed, List.getLast?_append_of_ne_nil _ empty] at closed

/-- Blanks are a seal. -/
theorem sealed_of_blank {blanks : List Char} (blank : ∀ char ∈ blanks, isTagBlank char = true) :
    Sealed blanks := by
  intro char last
  cases inner : isInnerChar char with
  | false => rfl
  | true =>
      have white := blank char (List.mem_of_getLast? last)
      rw [isTagBlank_of_isInnerChar inner] at white
      cases white

namespace Peg

/--
The numerals that are read begin where something is sealed off; `behind` says
that none of them is at the beginning.
-/
structure Seals (behind : Bool) (grammar : Peg) : Prop where
  place : ∀ {input rest : List Char} {trees : List Tree}, grammar.read input = some (trees, rest) →
    ∀ leaf ∈ numeralsOf trees, ∃ front, input = front ++ leaf.start ∧ Sealed front ∧
      (behind = true → front ≠ []) ∧ leaf.Stands

/-- No numeral is read. -/
structure Silent (grammar : Peg) : Prop where
  numeralsOf_eq : ∀ {input rest : List Char} {trees : List Tree},
    grammar.read input = some (trees, rest) → numeralsOf trees = []

/-- What is read is no numeral, and is sealed off from a numeral behind it. -/
structure Guards (grammar : Peg) : Prop where
  silent : grammar.Silent
  guards : ∀ {front rest : List Char} {trees : List Tree},
    grammar.read (front ++ rest) = some (trees, rest) → front ≠ [] ∧
      (Sealed front ∨ ∀ char, rest.head? = some char → isNumeralStart char = false)

variable {behind : Bool} {first second body : Peg} {rule : Rule}

theorem exists_front_of_read {grammar : Peg} {input rest : List Char} {trees : List Tree}
    (found : grammar.read input = some (trees, rest)) : ∃ front, input = front ++ rest :=
  (spec_of_read grammar List.suffix_rfl found).1.imp fun _ same => same.symm

/-! ## Expressions without numerals -/

theorem silent_leaf (other : rule ≠ .float ∧ rule ≠ .int) : (leaf rule body).Silent := by
  refine ⟨fun {input rest trees} found => ?_⟩
  obtain ⟨⟨text, last⟩, -, same⟩ := Option.map_eq_some_iff.1 found
  cases same
  exact Tree.numeralsOf_singleton other text input []

theorem silent_of_map_consume
    (plain : ∀ input, body.read input = (body.consume input).map fun (_, rest) => ([], rest)) :
    body.Silent := by
  refine ⟨fun {input rest trees} found => ?_⟩
  rw [plain] at found
  obtain ⟨⟨text, last⟩, -, same⟩ := Option.map_eq_some_iff.1 found
  cases same
  rfl

theorem Silent.node (silent : body.Silent) (other : rule ≠ .float ∧ rule ≠ .int) :
    (Peg.node rule body).Silent := by
  refine ⟨fun {input rest trees} found => ?_⟩
  obtain ⟨⟨children, last⟩, here, same⟩ := Option.map_eq_some_iff.1 found
  cases same
  rw [Tree.numeralsOf_singleton other, silent.numeralsOf_eq here]

theorem Silent.orElse (here : first.Silent) (there : second.Silent) :
    (first.orElse second).Silent := by
  refine ⟨fun {input rest trees} found => ?_⟩
  rw [read] at found
  split at found
  · exact there.numeralsOf_eq found
  · next taken =>
      cases found
      exact here.numeralsOf_eq taken

theorem Silent.seals (silent : body.Silent) : body.Seals behind := by
  refine ⟨fun {input rest trees} found leaf member => ?_⟩
  rw [silent.numeralsOf_eq found] at member
  cases member

/-! ## Expressions with numerals -/

theorem Seals.node (seals : body.Seals behind) (other : rule ≠ .float ∧ rule ≠ .int) :
    (Peg.node rule body).Seals behind := by
  refine ⟨fun {input rest trees} found => ?_⟩
  obtain ⟨⟨children, last⟩, here, same⟩ := Option.map_eq_some_iff.1 found
  cases same
  rw [Tree.numeralsOf_singleton other]
  exact seals.place here

theorem Seals.orElse (here : first.Seals behind) (there : second.Seals behind) :
    (first.orElse second).Seals behind := by
  refine ⟨fun {input rest trees} found => ?_⟩
  rw [read] at found
  split at found
  · exact there.place found
  · next taken =>
      cases found
      exact here.place taken

theorem Seals.optional (seals : body.Seals behind) : body.optional.Seals behind := by
  refine ⟨fun {input rest trees} found => ?_⟩
  rw [read] at found
  split at found
  · cases found
    simp [numeralsOf]
  · next taken =>
      cases found
      exact seals.place taken

/-- What is read first, and numerals that do not begin right behind it. -/
theorem Seals.andThen (here : first.Seals behind) (there : second.Seals true) :
    (first.andThen second).Seals behind := by
  refine ⟨fun {input rest trees} found leaf member => ?_⟩
  obtain ⟨opened, middle, later, firstRead, secondRead, rfl⟩ := exists_of_read_andThen found
  rw [Tree.numeralsOf_append, List.mem_append] at member
  rcases member with member | member
  · exact here.place firstRead leaf member
  · obtain ⟨consumed, rfl⟩ := exists_front_of_read firstRead
    obtain ⟨front, whole, closed, nonempty, stands⟩ := there.place secondRead leaf member
    obtain ⟨blanks, split⟩ := List.dropWhile_suffix isTagBlank (l := middle)
    refine ⟨consumed ++ (blanks ++ front), ?_, ?_, fun _ => ?_, stands⟩
    · rw [← split, ← skipBlanks, whole]
      simp
    · exact (closed.append (nonempty rfl) blanks).append (by simp [nonempty rfl]) consumed
    · simp [nonempty rfl]

/-- A numeral behind a separator is sealed off by it, or by the blanks behind it. -/
theorem Guards.andThen (guards : first.Guards) (seals : second.Seals false) :
    (first.andThen second).Seals true := by
  refine ⟨fun {input rest trees} found leaf member => ?_⟩
  obtain ⟨opened, middle, later, firstRead, secondRead, rfl⟩ := exists_of_read_andThen found
  rw [Tree.numeralsOf_append, guards.silent.numeralsOf_eq firstRead, List.nil_append] at member
  obtain ⟨consumed, rfl⟩ := exists_front_of_read firstRead
  obtain ⟨consumed_ne, guarded⟩ := guards.guards firstRead
  obtain ⟨front, whole, closed, -, stands⟩ := seals.place secondRead leaf member
  have split : middle = middle.takeWhile isTagBlank ++ (front ++ leaf.start) := by
    rw [← whole, skipBlanks, List.takeWhile_append_dropWhile]
  refine ⟨consumed ++ (middle.takeWhile isTagBlank ++ front), ?_, ?_, by simp [consumed_ne], stands⟩
  · conv_lhs => rw [split]
    simp
  by_cases front_nil : front = []
  case neg => exact (closed.append front_nil _).append (by simp [front_nil]) consumed
  subst front_nil
  rw [List.append_nil]
  by_cases blanks_nil : middle.takeWhile isTagBlank = []
  case neg =>
    exact (sealed_of_blank fun _ => List.mem_takeWhile_imp).append blanks_nil consumed
  rw [blanks_nil, List.append_nil]
  refine guarded.resolve_right fun noNumeral => ?_
  -- Nothing stands between the separator and the numeral.
  obtain ⟨rule, text, behind, rfl, numeral⟩ := stands
  obtain ⟨char, chars, rfl, starts⟩ := numeral.exists_cons
  rw [blanks_nil] at split
  rw [noNumeral char (by rw [split]; rfl)] at starts
  cases starts

theorem Seals.many (seals : body.Seals true) : body.many.Seals behind := by
  refine ⟨fun {input rest trees} found leaf member => ?_⟩
  obtain ⟨tree, here, inside⟩ := Tree.mem_numeralsOf.1 member
  let good (tree : Tree) : Prop := ∀ leaf ∈ tree.numerals, ∃ front,
    input = front ++ leaf.start ∧ Sealed front ∧ (behind = true → front ≠ []) ∧ leaf.Stands
  have spec := @spec_repeatStep input Tree good (fun input => body.read (skipBlanks input))
    (fun {place last trees} stays taken => by
      refine ⟨(spec_of_read body (suffix_skipBlanks stays) taken).1,
        fun tree here leaf inside => ?_⟩
      obtain ⟨front, whole, closed, nonempty, stands⟩ :=
        seals.place taken leaf (Tree.mem_numeralsOf.2 ⟨tree, here, inside⟩)
      obtain ⟨before, same⟩ := suffix_skipBlanks stays
      refine ⟨before ++ front, ?_, closed.append (nonempty rfl) before, by simp [nonempty rfl],
        stands⟩
      rw [List.append_assoc, ← whole, same])
    input input List.suffix_rfl
  rw [read] at found
  rw [Option.some.inj found] at spec
  exact spec.2 tree here leaf inside

/-- The choice between the rules of numerals and others that read no numeral. -/
theorem seals_numeral {other : Peg} (silent : other.Silent) :
    (float.orElse (int.orElse other)).Seals false := by
  refine ⟨fun {input rest trees} found leaf member => ?_⟩
  rw [read] at found
  split at found
  · next noFloat =>
      rw [read] at found
      split at found
      · rw [silent.numeralsOf_eq found] at member
        cases member
      · next taken =>
          cases found
          obtain ⟨text, -, rfl, rfl⟩ := exists_of_read_int taken
          obtain rfl := List.mem_singleton.1 member
          exact ⟨[], rfl, sealed_nil, by simp, _, _, _, rfl, .int noFloat taken⟩
  · next taken =>
      cases found
      obtain ⟨text, -, rfl, rfl⟩ := exists_of_read_float taken
      obtain rfl := List.mem_singleton.1 member
      exact ⟨[], rfl, sealed_nil, by simp, _, _, _, rfl, .float taken⟩

/-! ## Separators -/

/-- What begins with a separator is not empty. -/
theorem Guards.advances (guards : first.Guards) {input rest : List Char} {trees : List Tree}
    (found : (first.andThen second).read input = some (trees, rest)) :
    rest.length < input.length := by
  obtain ⟨opened, middle, later, firstRead, secondRead, -⟩ := exists_of_read_andThen found
  obtain ⟨consumed, rfl⟩ := exists_front_of_read firstRead
  have positive := List.length_pos_iff.2 (guards.guards firstRead).1
  have kept := (spec_of_read second List.suffix_rfl secondRead).1.length_le
  have skipped := length_skipBlanks_le middle
  rw [List.length_append]
  omega

theorem Guards.orElse (here : first.Guards) (there : second.Guards) :
    (first.orElse second).Guards where
  silent := here.silent.orElse there.silent
  guards := by
    intro front rest trees found
    rw [read] at found
    split at found
    · exact there.guards found
    · next taken =>
        cases found
        exact here.guards taken

theorem Guards.node (guards : body.Guards) (other : rule ≠ .float ∧ rule ≠ .int) :
    (Peg.node rule body).Guards where
  silent := guards.silent.node other
  guards := by
    intro front rest trees found
    obtain ⟨⟨children, last⟩, here, same⟩ := Option.map_eq_some_iff.1 found
    cases same
    exact guards.guards here

/-- A text with a boundary at its end. -/
theorem guards_literal {word : List Char} (nonempty : word ≠ []) (closed : Sealed word) :
    (Peg.literal word).Guards where
  silent := silent_of_map_consume fun _ => rfl
  guards := by
    intro front rest trees found
    obtain ⟨⟨text, last⟩, consumed, same⟩ := Option.map_eq_some_iff.1 found
    obtain ⟨behind, taken, whole⟩ := Option.map_eq_some_iff.1 consumed
    cases same
    cases whole
    obtain rfl := List.append_cancel_right (Text.eq_append_of_after taken)
    exact ⟨nonempty, .inl closed⟩

theorem guards_char {expected : Char} (outside : isInnerChar expected = false) :
    (char expected).Guards where
  silent := silent_of_map_consume fun _ => rfl
  guards := by
    intro front rest trees found
    obtain ⟨⟨text, last⟩, consumed, same⟩ := Option.map_eq_some_iff.1 found
    cases same
    obtain ⟨-, whole⟩ := consume_char_eq_some consumed
    obtain rfl : front = [expected] := List.append_cancel_right whole
    refine ⟨by simp, .inl fun char last => ?_⟩
    rw [List.getLast?_singleton, Option.some.injEq] at last
    rwa [← last]

/-- A word ends where no numeral begins. -/
theorem guards_word {letters : List Char} (nonempty : letters ≠ [])
    (chars : letters.all isIdentChar) (other : rule ≠ .float ∧ rule ≠ .int) :
    (leaf rule (word letters)).Guards where
  silent := silent_leaf other
  guards := by
    intro front rest trees found
    obtain ⟨⟨text, last⟩, consumed, same⟩ := Option.map_eq_some_iff.1 found
    cases same
    rw [consume_word (List.all_eq_true.1 chars)] at consumed
    split at consumed
    case isFalse => cases consumed
    next run =>
      obtain ⟨rfl, behind⟩ := Prod.mk.inj (Option.some.inj consumed)
      have whole := @List.takeWhile_append_dropWhile _ isIdentChar (front ++ rest)
      rw [run, behind] at whole
      obtain rfl := List.append_cancel_right whole
      refine ⟨nonempty, .inr fun char head => ?_⟩
      have ends : isIdentChar char = false := by
        have first := List.head?_dropWhile_not isIdentChar (letters ++ rest)
        rwa [behind, head] at first
      cases starts : isNumeralStart char with
      | false => rfl
      | true =>
          rw [isNumeralStart, Bool.or_eq_true, beq_iff_eq] at starts
          rcases starts with isDigit | rfl
          · rw [isIdentChar_of_isDigit isDigit] at ends
            cases ends
          · cases ends

end Peg

/-! ## The grammar of tags -/

open Peg (Guards Seals)

theorem guards_comparisonOperator : comparisonOperator.Guards := by
  have operator (rule : Rule) (other : rule ≠ .float ∧ rule ≠ .int) {word : List Char}
      (nonempty : word ≠ []) (closed : Sealed word) : (Peg.node rule (.literal word)).Guards :=
    (Peg.guards_literal nonempty closed).node other
  have unequal : (Peg.node .unequal
      ((Peg.literal "!=".toList).orElse (.literal "<>".toList))).Guards :=
    ((Peg.guards_literal (by decide) (by decide)).orElse
      (Peg.guards_literal (by decide) (by decide))).node (by decide)
  exact (operator .equal (by decide) (by decide) (by decide)).orElse <| unequal.orElse <|
    (operator .lessOrEqual (by decide) (by decide) (by decide)).orElse <|
    (operator .greaterOrEqual (by decide) (by decide) (by decide)).orElse <|
    (operator .less (by decide) (by decide) (by decide)).orElse <|
    (operator .greater (by decide) (by decide) (by decide)).orElse <|
    Peg.guards_word (by decide) (by decide) (by decide)

theorem guards_or : Grammar.or.Guards :=
  Peg.guards_word (by decide) (by decide) (by decide)

theorem guards_connective : (Grammar.and.orElse Grammar.or).Guards :=
  (Peg.guards_word (by decide) (by decide) (by decide)).orElse guards_or

theorem seals_primary : primary.Seals false := by
  have words : (string.orElse (boolean.orElse nil)).Silent :=
    (Peg.silent_leaf (by decide)).orElse
      ((Peg.silent_leaf (by decide)).orElse (Peg.silent_leaf (by decide)))
  have literal : Grammar.literal.Seals false := (Peg.seals_numeral words).node (by decide)
  exact (literal.orElse (Peg.silent_leaf (by decide)).seals).node (by decide)

theorem seals_comparison : comparison.Seals false :=
  (seals_primary.andThen (guards_comparisonOperator.andThen seals_primary).optional).node
    (by decide)

theorem seals_endOfTag : endOfTag.Seals true :=
  (Peg.silent_leaf (by decide)).seals

theorem seals_ident {behind : Bool} : ident.Seals behind :=
  (Peg.silent_leaf (by decide)).seals

theorem seals_filters : filters.Seals true := by
  have argument : ((char ':').andThen primary).optional.Seals true :=
    ((Peg.guards_char rfl).andThen seals_primary).optional
  have filter : Grammar.filter.Seals false := (seals_ident.andThen argument).node (by decide)
  exact ((Peg.guards_char rfl).andThen filter).many

/-- What stands behind the beginning of an output or an assignment. -/
theorem seals_output : (comparison.andThen (filters.andThen endOfTag)).Seals false :=
  seals_comparison.andThen (seals_filters.andThen seals_endOfTag)

theorem seals_outputTag : outputTag.Seals false :=
  seals_output.node (by decide)

theorem seals_assignTag : assignTag.Seals false :=
  (seals_ident.andThen ((Peg.guards_char rfl).andThen seals_output)).node (by decide)

theorem seals_conditionTag : conditionTag.Seals false := by
  have condition : Grammar.condition.Seals false :=
    (seals_comparison.andThen (guards_connective.andThen seals_comparison).many).node (by decide)
  exact (condition.andThen seals_endOfTag).node (by decide)

theorem seals_caseTag : caseTag.Seals false :=
  (seals_primary.andThen seals_endOfTag).node (by decide)

theorem seals_whenTag : whenTag.Seals false := by
  have separator : (Grammar.or.orElse (char ',')).Guards := guards_or.orElse (Peg.guards_char rfl)
  exact (seals_primary.andThen
    ((separator.andThen seals_primary).many.andThen seals_endOfTag)).node (by decide)

end Grammar

end Stencil
