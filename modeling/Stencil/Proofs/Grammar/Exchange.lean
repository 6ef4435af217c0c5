import Mathlib.Data.List.Basic
import Stencil.Proofs.Grammar.Seam
import Stencil.Proofs.Syntax.Resemblance

/-!
# One numeral in place of another

Where a numeral is read in a tag, any other numeral is read in its place.  The
two readings go the same way: they have read the same trees up to the numeral,
and what follows it is the same text for both.
-/

namespace Stencil

namespace Grammar

open Stencil.Grammar.Tree (numeralsOf)

/-- Whether the trees of a rule can have operands among their parts. -/
def Rule.hasParts : Rule → Bool
  | .literal | .primary | .comparison | .condition | .filter => true
  | .outputTag | .conditionTag | .caseTag | .whenTag | .assignTag => true
  | _ => false

mutual

/-- Trees that are the same but for one leaf, and for the places at which they begin. -/
inductive Tree.Swapped (leaf other : Tree) : Tree → Tree → Prop
  | leaf : Tree.Swapped leaf other leaf other
  | parts {rule : Rule} {text start place : List Char} {children others : List Tree}
      (composed : rule.hasParts) (inner : Tree.SwappedIn leaf other children others) :
      Tree.Swapped leaf other ⟨rule, text, start, children⟩ ⟨rule, text, place, others⟩

/-- Lists of trees that are the same but for a leaf in one of them. -/
inductive Tree.SwappedIn (leaf other : Tree) : List Tree → List Tree → Prop
  | here {first second : Tree} (swapped : Tree.Swapped leaf other first second)
      (trees : List Tree) : Tree.SwappedIn leaf other (first :: trees) (second :: trees)
  | behind {first second : Tree} {trees others : List Tree} (same : first.Same second)
      (swapped : Tree.SwappedIn leaf other trees others) :
      Tree.SwappedIn leaf other (first :: trees) (second :: others)

end

namespace Tree.SwappedIn

variable {leaf other : Tree} {trees others : List Tree}

theorem append_right (swapped : SwappedIn leaf other trees others) (later : List Tree) :
    SwappedIn leaf other (trees ++ later) (others ++ later) := by
  induction trees generalizing others with
  | nil => cases swapped
  | cons tree trees ih =>
      cases swapped with
      | here swapped => exact .here swapped (trees ++ later)
      | behind same swapped => exact .behind same (ih swapped)

theorem append_left {front place : List Tree} (same : List.Forall₂ Tree.Same front place)
    (swapped : SwappedIn leaf other trees others) :
    SwappedIn leaf other (front ++ trees) (place ++ others) := by
  induction same with
  | nil => exact swapped
  | cons here _ ih => exact .behind here ih

end Tree.SwappedIn

/-- Two numerals that can stand in front of the same text. -/
structure Exchange where
  back : List Char
  oldRule : Rule
  old : List Char
  newRule : Rule
  new : List Char
  oldNumeral : IsNumeral back oldRule old
  newNumeral : IsNumeral back newRule new

namespace Exchange

variable (exchange : Exchange)

/-- A text with the old numeral behind it, and what follows. -/
def before (front : List Char) : List Char :=
  front ++ (exchange.old ++ exchange.back)

/-- A text with the new numeral behind it, and what follows. -/
def after (front : List Char) : List Char :=
  front ++ (exchange.new ++ exchange.back)

def oldLeaf : Tree :=
  ⟨exchange.oldRule, exchange.old, exchange.before [], []⟩

def newLeaf : Tree :=
  ⟨exchange.newRule, exchange.new, exchange.after [], []⟩

/-- The other way round. -/
def symm : Exchange :=
  { exchange with
    oldRule := exchange.newRule
    old := exchange.new
    newRule := exchange.oldRule
    new := exchange.old
    oldNumeral := exchange.newNumeral
    newNumeral := exchange.oldNumeral }

/-- The old numeral is among the trees. -/
def Occurs (trees : List Tree) : Prop :=
  ∃ leaf ∈ numeralsOf trees, leaf.start = exchange.before []

/--
How two readings end that begin in front of the two numerals: both fail, both
end in front of the numeral, or both end behind it at the same place.  The
numerals have been exchanged if the old one is among the trees; else it is in a
string.
-/
inductive Outcome : Peg.Reading Tree → Peg.Reading Tree → Prop
  | fail : Outcome none none
  | ahead {front : List Char} {trees others : List Tree} (closed : Sealed front)
      (same : List.Forall₂ Tree.Same trees others) (absent : ¬ exchange.Occurs trees) :
      Outcome (some (trees, exchange.before front)) (some (others, exchange.after front))
  | past {rest : List Char} {trees others : List Tree} (inside : rest <:+ exchange.back)
      (swapped : exchange.Occurs trees →
        Tree.SwappedIn exchange.oldLeaf exchange.newLeaf trees others) :
      Outcome (some (trees, rest)) (some (others, rest))

variable {exchange} {front rest : List Char} {trees others later : List Tree}

theorem occurs_append :
    exchange.Occurs (trees ++ later) ↔ exchange.Occurs trees ∨ exchange.Occurs later := by
  simp only [Occurs, Tree.numeralsOf_append, List.mem_append, or_and_right, exists_or]

theorem not_occurs_nil : ¬ exchange.Occurs [] := by
  simp [Occurs, numeralsOf]

variable (exchange) in
theorem skipBlanks_before (front : List Char) :
    skipBlanks (exchange.before front) = exchange.before (skipBlanks front) :=
  skipBlanks_append_of_solid exchange.oldNumeral.skipBlanks_append front

variable (exchange) in
theorem skipBlanks_after (front : List Char) :
    skipBlanks (exchange.after front) = exchange.after (skipBlanks front) :=
  exchange.symm.skipBlanks_before front

/-- What is read behind the numeral does not hold it. -/
theorem not_occurs_of_read {grammar : Peg} {input : List Char} (inside : input <:+ exchange.back)
    (found : grammar.read input = some (trees, rest)) : ¬ exchange.Occurs trees := by
  rintro ⟨leaf, member, same⟩
  obtain ⟨tree, here, within⟩ := Tree.mem_numeralsOf.1 member
  have places := (Peg.spec_of_read grammar List.suffix_rfl found).2 tree here
  have fits := ((places.suffix_of_mem_numerals leaf within).trans inside).length_le
  have nonempty := exchange.oldNumeral.length_pos
  rw [same, before, List.nil_append, List.length_append] at fits
  omega

theorem before_ne_before_nil (nonempty : front ≠ []) :
    exchange.before front ≠ exchange.before [] := by
  intro same
  have lengths := congrArg List.length same
  have positive := List.length_pos_iff.2 nonempty
  simp only [before, List.length_append, List.length_nil] at lengths
  omega

namespace Outcome

/-- Trees that are the same, in front of others. -/
theorem append_left {earlier place : List Tree} {reading again : Peg.Reading Tree}
    (same : List.Forall₂ Tree.Same earlier place) (absent : ¬ exchange.Occurs earlier)
    (outcome : exchange.Outcome reading again) :
    exchange.Outcome (reading.map fun (later, rest) => (earlier ++ later, rest))
      (again.map fun (later, rest) => (place ++ later, rest)) := by
  cases outcome with
  | fail => exact .fail
  | ahead closed alike missing =>
      refine .ahead closed (List.rel_append same alike) ?_
      rw [occurs_append]
      exact not_or.2 ⟨absent, missing⟩
  | past inside swapped =>
      refine .past inside fun occurs => ?_
      exact (swapped ((occurs_append.1 occurs).resolve_left absent)).append_left same

/-- Trees that were read behind the numeral, behind others. -/
theorem append_right {grammar : Peg} {input : List Char} (inside : input <:+ exchange.back)
    (swapped : exchange.Occurs trees →
      Tree.SwappedIn exchange.oldLeaf exchange.newLeaf trees others) :
    exchange.Outcome
      ((grammar.read input).map fun (later, rest) => (trees ++ later, rest))
      ((grammar.read input).map fun (later, rest) => (others ++ later, rest)) := by
  cases found : grammar.read input with
  | none => exact .fail
  | some reading =>
      obtain ⟨later, rest⟩ := reading
      refine .past (Peg.spec_of_read grammar inside found).1 fun occurs => ?_
      exact (swapped ((occurs_append.1 occurs).resolve_right
        (not_occurs_of_read inside found))).append_right later

end Outcome

end Exchange

namespace Peg

/-- The two readings of an expression go the same way, in front of the two numerals. -/
def Exchanges (exchange : Exchange) (grammar : Peg) : Prop :=
  ∀ front, Sealed front →
    exchange.Outcome (grammar.read (exchange.before front)) (grammar.read (exchange.after front))

variable {exchange : Exchange} {first second body : Peg} {rule : Rule} {front : List Char}

open Exchange (Outcome)

theorem Exchanges.andThen (here : first.Exchanges exchange) (there : second.Exchanges exchange) :
    (first.andThen second).Exchanges exchange := by
  intro front closed
  have begun := here front closed
  rw [read, read]
  generalize first.read (exchange.before front) = reading at begun ⊢
  generalize first.read (exchange.after front) = again at begun ⊢
  cases begun with
  | fail => exact .fail
  | @ahead middle trees others stays same absent =>
      have next := there (skipBlanks middle) (stays.of_suffix (List.dropWhile_suffix _))
      rw [← Exchange.skipBlanks_before, ← Exchange.skipBlanks_after] at next
      exact next.append_left same absent
  | past inside swapped => exact Outcome.append_right (suffix_skipBlanks inside) swapped

theorem outcome_orElse
    (here : exchange.Outcome (first.read (exchange.before front))
      (first.read (exchange.after front)))
    (there : exchange.Outcome (second.read (exchange.before front))
      (second.read (exchange.after front))) :
    exchange.Outcome ((first.orElse second).read (exchange.before front))
      ((first.orElse second).read (exchange.after front)) := by
  rw [read, read]
  generalize first.read (exchange.before front) = reading at here ⊢
  generalize first.read (exchange.after front) = again at here ⊢
  cases here with
  | fail => exact there
  | ahead stays same absent => exact .ahead stays same absent
  | past inside swapped => exact .past inside swapped

theorem Exchanges.orElse (here : first.Exchanges exchange) (there : second.Exchanges exchange) :
    (first.orElse second).Exchanges exchange :=
  fun front closed => outcome_orElse (here front closed) (there front closed)

theorem Exchanges.optional (exchanges : body.Exchanges exchange) :
    body.optional.Exchanges exchange := by
  intro front closed
  have outcome := exchanges front closed
  rw [read, read]
  generalize body.read (exchange.before front) = reading at outcome ⊢
  generalize body.read (exchange.after front) = again at outcome ⊢
  cases outcome with
  | fail => exact .ahead closed .nil Exchange.not_occurs_nil
  | ahead stays same absent => exact .ahead stays same absent
  | past inside swapped => exact .past inside swapped

/-- A rule with operands among its parts. -/
theorem Exchanges.node (exchanges : body.Exchanges exchange) (composed : rule.hasParts) :
    (Peg.node rule body).Exchanges exchange := by
  intro front closed
  have other : rule ≠ .float ∧ rule ≠ .int := by
    constructor <;>
    · rintro rfl
      cases composed
  have outcome := exchanges front closed
  rw [read, read]
  generalize body.read (exchange.before front) = reading at outcome ⊢
  generalize body.read (exchange.after front) = again at outcome ⊢
  cases outcome with
  | fail => exact .fail
  | ahead stays same absent =>
      refine .ahead stays (.cons (.mk same) .nil) ?_
      rwa [Exchange.Occurs, Tree.numeralsOf_singleton other]
  | past inside swapped =>
      refine .past inside fun occurs => ?_
      rw [Exchange.Occurs, Tree.numeralsOf_singleton other] at occurs
      exact .here (.parts composed (swapped occurs)) []

/-- A rule without numerals among its parts. -/
theorem Exchanges.node_of_silent (exchanges : body.Exchanges exchange) (silent : body.Silent)
    (other : rule ≠ .float ∧ rule ≠ .int) : (Peg.node rule body).Exchanges exchange := by
  intro front closed
  have outcome := exchanges front closed
  have absent (trees : List Tree) (rest : List Char)
      (found : body.read (exchange.before front) = some (trees, rest)) :
      ¬ exchange.Occurs [⟨rule, [], exchange.before front, trees⟩] := by
    rw [Exchange.Occurs, Tree.numeralsOf_singleton other, silent.numeralsOf_eq found]
    exact Exchange.not_occurs_nil
  rw [read, read]
  generalize body.read (exchange.before front) = reading at outcome absent ⊢
  generalize body.read (exchange.after front) = again at outcome ⊢
  cases outcome with
  | fail => exact .fail
  | ahead stays same _ => exact .ahead stays (.cons (.mk same) .nil) (absent _ _ rfl)
  | past inside _ => exact .past inside fun occurs => absurd occurs (absent _ _ rfl)

/-! ## Repetitions -/

section Repetition

/-- Whatever is read by a repetition, each step reads something. -/
theorem exists_repeats
    (advances : ∀ {input rest : List Char} {trees : List Tree},
      body.read input = some (trees, rest) → rest.length < input.length) (input : List Char) :
    ∃ found last, Repeats (fun input => body.read (skipBlanks input)) input found last := by
  cases taken : body.read (skipBlanks input) with
  | none => exact ⟨[], input, .stop taken⟩
  | some reading =>
      obtain ⟨trees, rest⟩ := reading
      have shorter : rest.length < input.length :=
        Nat.lt_of_lt_of_le (advances taken) (length_skipBlanks_le input)
      obtain ⟨found, last, later⟩ := exists_repeats advances rest
      exact ⟨trees :: found, last, .next taken shorter later⟩
termination_by input.length

theorem outcome_of_repeats (exchanges : body.Exchanges exchange)
    (advances : ∀ {input rest : List Char} {trees : List Tree},
      body.read input = some (trees, rest) → rest.length < input.length)
    {input last : List Char} {found : List (List Tree)}
    (repeats : Repeats (fun input => body.read (skipBlanks input)) input found last)
    (closed : Sealed front) (whole : input = exchange.before front) :
    ∃ again behind,
      Repeats (fun input => body.read (skipBlanks input)) (exchange.after front) again behind ∧
        exchange.Outcome (some (found.flatten, last)) (some (again.flatten, behind)) := by
  have step (front : List Char) (closed : Sealed front) := exchanges (skipBlanks front)
    (closed.of_suffix (List.dropWhile_suffix _))
  induction repeats generalizing front with
  | stop stops =>
      subst whole
      have outcome := step front closed
      rw [← Exchange.skipBlanks_before, stops, ← Exchange.skipBlanks_after] at outcome
      cases again : body.read (skipBlanks (exchange.after front)) with
      | none => exact ⟨[], _, .stop again, .ahead closed .nil Exchange.not_occurs_nil⟩
      | some reading =>
          rw [again] at outcome
          cases outcome
  | @next input rest last trees more here shorter later ih =>
      subst whole
      have outcome := step front closed
      rw [← Exchange.skipBlanks_before, here, ← Exchange.skipBlanks_after] at outcome
      cases again : body.read (skipBlanks (exchange.after front)) with
      | none =>
          rw [again] at outcome
          cases outcome
      | some reading =>
          obtain ⟨others, behind⟩ := reading
          have progress : behind.length < (exchange.after front).length :=
            Nat.lt_of_lt_of_le (advances again) (length_skipBlanks_le _)
          rw [again] at outcome
          cases outcome with
          | ahead stays same absent =>
              obtain ⟨found, end_, repeats, ends⟩ := ih stays rfl
              exact ⟨_, _, .next again progress repeats, ends.append_left same absent⟩
          | past inside swapped =>
              refine ⟨_, _, .next again progress later, ?_⟩
              have ends := @Outcome.append_right exchange _ _ body.many _ inside swapped
              rwa [read_many later] at ends

theorem Exchanges.many (exchanges : body.Exchanges exchange)
    (advances : ∀ {input rest : List Char} {trees : List Tree},
      body.read input = some (trees, rest) → rest.length < input.length) :
    body.many.Exchanges exchange := by
  intro front closed
  obtain ⟨found, last, repeats⟩ := exists_repeats advances (exchange.before front)
  obtain ⟨again, behind, repeatsAgain, outcome⟩ :=
    outcome_of_repeats exchanges advances repeats closed rfl
  rwa [read_many repeats, read_many repeatsAgain]

end Repetition

/-! ## Leaves and symbols -/

/-- Up to a seal an expression is read in the same way, whatever stands behind it. -/
theorem Inside.exists_consume_append (inside : body.Inside isInnerChar) (closed : Sealed front)
    (nonempty : front ≠ []) :
    ∃ reading : Reading Char, (∀ text rest, reading = some (text, rest) → Sealed rest) ∧
      ∀ later, body.consume (front ++ later) = reading.append later := by
  obtain ⟨front, last, rfl⟩ := (List.eq_nil_or_concat' front).resolve_left nonempty
  have outside : isInnerChar last = false := closed last List.getLast?_concat
  refine ⟨(body.consume front).append [last], fun text rest found => ?_, fun later => ?_⟩
  · obtain ⟨⟨text, rest⟩, -, same⟩ := Option.map_eq_some_iff.1 found
    cases same
    intro char ends
    rw [List.getLast?_concat, Option.some.injEq] at ends
    rwa [← ends]
  · rw [List.append_assoc, inside.consume_append fun char head => by cases head; exact outside]
    cases body.consume front with
    | none => rfl
    | some reading =>
        obtain ⟨text, rest⟩ := reading
        simp

/-- A leaf in front of the numerals is read up to the seal in front of them at most. -/
theorem outcome_leaf (inside : body.Inside isInnerChar) (rule : Rule) (closed : Sealed front)
    (nonempty : front ≠ []) :
    exchange.Outcome ((leaf rule body).read (exchange.before front))
      ((leaf rule body).read (exchange.after front)) := by
  obtain ⟨reading, stays, consumed⟩ := inside.exists_consume_append closed nonempty
  rw [read, read, Exchange.before, Exchange.after, consumed, consumed]
  cases reading with
  | none => exact .fail
  | some reading =>
      refine .ahead (stays _ _ rfl) (.cons Tree.same_leaf .nil) ?_
      rintro ⟨leaf, member, same⟩
      obtain rfl : leaf = ⟨rule, _, exchange.before front, []⟩ := by
        simp only [numeralsOf, Tree.numerals, List.append_nil] at member
        split at member
        · exact List.mem_singleton.1 member
        · cases member
      exact Exchange.before_ne_before_nil nonempty same

/-- A leaf that is no numeral is not read where one begins. -/
theorem exchanges_leaf (inside : body.Inside isInnerChar) (rule : Rule)
    (refuses : ∀ char chars, isNumeralStart char = true → body.consume (char :: chars) = none) :
    (leaf rule body).Exchanges exchange := by
  intro front closed
  by_cases nonempty : front = []
  case neg => exact outcome_leaf inside rule closed nonempty
  have stops {rule : Rule} {back text : List Char} (numeral : IsNumeral back rule text) :
      body.consume (text ++ back) = none := by
    obtain ⟨char, chars, rfl, starts⟩ := numeral.exists_cons
    exact refuses char (chars ++ back) starts
  subst nonempty
  rw [Exchange.before, Exchange.after, List.nil_append, List.nil_append,
    read_leaf_eq_none (stops exchange.oldNumeral), read_leaf_eq_none (stops exchange.newNumeral)]
  exact .fail

/-- Symbols have no characters that a numeral begins with. -/
theorem exchanges_of_map_consume (inside : body.Inside fun char => !isNumeralStart char)
    (plain : ∀ input, body.read input = (body.consume input).map fun (_, rest) => ([], rest)) :
    body.Exchanges exchange := by
  intro front closed
  have consumed {rule : Rule} {back text : List Char} (numeral : IsNumeral back rule text) :
      body.consume (front ++ (text ++ back)) = (body.consume front).append (text ++ back) := by
    refine inside.consume_append (fun char head => ?_) front
    obtain ⟨first, chars, rfl, starts⟩ := numeral.exists_cons
    cases head
    rw [starts, Bool.not_true]
  rw [plain, plain, Exchange.before, Exchange.after, consumed exchange.oldNumeral,
    consumed exchange.newNumeral]
  cases taken : body.consume front with
  | none => exact .fail
  | some reading =>
      obtain ⟨text, rest⟩ := reading
      exact .ahead (closed.of_suffix (suffix_of_consume body List.suffix_rfl taken)) .nil
        Exchange.not_occurs_nil

theorem exchanges_literal {word : List Char} (plain : word.all fun char => !isNumeralStart char) :
    (Peg.literal word).Exchanges exchange :=
  exchanges_of_map_consume (.literal (List.all_eq_true.1 plain)) fun _ => rfl

theorem exchanges_char {expected : Char} (plain : isNumeralStart expected = false) :
    (char expected).Exchanges exchange := by
  refine exchanges_of_map_consume (.satisfy fun char same => ?_) fun _ => rfl
  rw [beq_iff_eq] at same
  rw [same, plain, Bool.not_false]

/-- A numeral is not the end of a tag. -/
theorem exchanges_endOfTag : endOfTag.Exchanges exchange := by
  intro front closed
  have goesOn {rule : Rule} {back text : List Char} (numeral : IsNumeral back rule text) :
      endOfTag.read (front ++ (text ++ back)) = none := by
    obtain ⟨char, chars, rfl, -⟩ := numeral.exists_cons
    refine read_leaf_eq_none ?_
    cases front <;> rfl
  rw [Exchange.before, Exchange.after, goesOn exchange.oldNumeral, goesOn exchange.newNumeral]
  exact .fail

/-! ## Strings -/

/-- Two texts that go up to the first quote. -/
theorem eq_of_append_quote_eq {quote : Char} {first second rest last : List Char}
    (absent : quote ∉ first) (missing : quote ∉ second)
    (same : first ++ quote :: rest = second ++ quote :: last) : first = second ∧ rest = last := by
  simp only [List.append_eq_append_iff, List.cons_eq_append_iff] at same
  obtain ⟨_, rfl, ⟨rfl, ends⟩ | ⟨_, rfl, _⟩⟩ | ⟨_, rfl, ⟨rfl, ends⟩ | ⟨_, rfl, _⟩⟩ := same <;>
    simp_all

/-- A string ends in front of the numeral, or it has the whole numeral in it. -/
theorem exists_of_read_string {rule : Rule} {back text rest : List Char} {trees : List Tree}
    (numeral : IsNumeral back rule text)
    (found : string.read (front ++ (text ++ back)) = some (trees, rest)) :
    ∃ quote content start, isQuote quote ∧ quote ∉ content ∧ front = quote :: start ∧
      trees = [⟨.string, quote :: (content ++ [quote]), front ++ (text ++ back), []⟩] ∧
        ((∃ more, start = content ++ quote :: more ∧ rest = more ++ (text ++ back)) ∨
          ∃ behind, content = start ++ (text ++ behind) ∧ back = behind ++ quote :: rest) := by
  obtain ⟨quote, content, quoted, absent, whole, rfl⟩ := read_string_eq_some_iff.1 found
  have foreign : quote ∉ text := numeral.quote_not_mem quoted
  cases front with
  | nil =>
      obtain ⟨char, chars, rfl, -⟩ := numeral.exists_cons
      obtain ⟨rfl, -⟩ := List.cons.inj whole
      exact absurd List.mem_cons_self foreign
  | cons first start =>
      rw [List.cons_append, List.cons.injEq] at whole
      obtain ⟨rfl, same⟩ := whole
      refine ⟨first, content, start, quoted, absent, rfl, rfl, ?_⟩
      by_cases closes : first ∈ start
      · obtain ⟨inside, more, rfl, missing⟩ := List.eq_append_cons_of_mem closes
        rw [List.append_assoc, List.cons_append] at same
        obtain ⟨rfl, rfl⟩ := eq_of_append_quote_eq missing absent same
        exact .inl ⟨more, rfl, rfl⟩
      · have later : first ∈ back := by
          have member : first ∈ start ++ (text ++ back) := by rw [same]; simp
          simpa [closes, foreign] using member
        obtain ⟨behind, left, rfl, missing⟩ := List.eq_append_cons_of_mem later
        rw [← List.append_assoc, ← List.append_assoc] at same
        obtain ⟨rfl, rfl⟩ :=
          eq_of_append_quote_eq (by simp [closes, foreign, missing]) absent same
        exact .inr ⟨behind, by rw [List.append_assoc], rfl⟩

theorem outcome_string_of_read {reading : List Tree × List Char}
    (closed : Sealed front) (found : string.read (exchange.before front) = some reading) :
    exchange.Outcome (some reading) (string.read (exchange.after front)) := by
  obtain ⟨trees, rest⟩ := reading
  obtain ⟨quote, content, start, quoted, absent, rfl, rfl, ends | ends⟩ :=
    exists_of_read_string exchange.oldNumeral found
  · obtain ⟨more, rfl, rfl⟩ := ends
    have again : string.read (exchange.after (quote :: (content ++ quote :: more))) =
        some ([⟨.string, quote :: (content ++ [quote]), _, []⟩], exchange.after more) :=
      read_string_eq_some_iff.2 ⟨quote, content, quoted, absent, by simp [Exchange.after], rfl⟩
    rw [again]
    refine .ahead (closed.of_suffix ⟨quote :: (content ++ [quote]), by simp⟩)
      (.cons Tree.same_leaf .nil) ?_
    rw [Exchange.Occurs, Tree.numeralsOf_singleton (by decide)]
    exact Exchange.not_occurs_nil
  · obtain ⟨behind, rfl, split⟩ := ends
    have foreign := exchange.newNumeral.quote_not_mem quoted
    have again : string.read (exchange.after (quote :: start)) =
        some ([⟨.string, quote :: ((start ++ (exchange.new ++ behind)) ++ [quote]),
          exchange.after (quote :: start), []⟩], rest) := by
      refine read_string_eq_some_iff.2 ⟨quote, _, quoted, ?_, ?_, rfl⟩
      · simp only [List.mem_append, not_or] at absent ⊢
        exact ⟨absent.1, foreign, absent.2.2⟩
      · simp [Exchange.after, split]
    rw [again]
    refine .past ?_ fun occurs => ?_
    · rw [split]
      exact (List.suffix_cons quote rest).trans (List.suffix_append behind _)
    · rw [Exchange.Occurs, Tree.numeralsOf_singleton (by decide)] at occurs
      exact absurd occurs Exchange.not_occurs_nil

theorem exchanges_string : string.Exchanges exchange := by
  intro front closed
  cases found : string.read (exchange.before front) with
  | some reading => exact outcome_string_of_read closed found
  | none =>
      cases again : string.read (exchange.after front) with
      | none => exact .fail
      | some reading =>
          -- The other way round the old numeral would be in a string, too.
          have outcome := @outcome_string_of_read exchange.symm front reading closed again
          have fails : string.read (exchange.symm.after front) = none := found
          rw [fails] at outcome
          cases outcome

/-! ## Operands -/

theorem read_number {other : Peg} {rule : Rule} {back text : List Char}
    (numeral : IsNumeral back rule text) :
    (float.orElse (int.orElse other)).read (text ++ back) =
      some ([⟨rule, text, text ++ back, []⟩], back) := by
  cases numeral with
  | float read => exact read_orElse_of_some read
  | int noFloat read => rw [read_orElse_of_none noFloat, read_orElse_of_some read]

/-- The numerals themselves, where they are read. -/
theorem exchanges_numeral {other : Peg} (exchanges : other.Exchanges exchange) :
    (float.orElse (int.orElse other)).Exchanges exchange := by
  intro front closed
  by_cases nonempty : front = []
  · subst nonempty
    have oldRead := @read_number other _ _ _ exchange.oldNumeral
    have newRead := @read_number other _ _ _ exchange.newNumeral
    rw [Exchange.before, Exchange.after, List.nil_append, List.nil_append, oldRead, newRead]
    exact .past List.suffix_rfl fun _ => .here .leaf []
  · exact outcome_orElse (outcome_leaf inside_float .float closed nonempty)
      (outcome_orElse (outcome_leaf inside_int .int closed nonempty) (exchanges front closed))

end Peg

/-! ## The grammar of tags -/

open Peg (Exchanges)

section

variable (exchange : Exchange)

theorem consume_word_eq_none {first char : Char} {more : List Char}
    (plain : isNumeralStart first = false) (starts : isNumeralStart char = true)
    (rest : List Char) : (word (first :: more)).consume (char :: rest) = none := by
  refine Peg.consume_andThen_eq_none ?_
  have differs : first ≠ char := by
    rintro rfl
    rw [plain] at starts
    cases starts
  simp [Peg.consume, Text.after, differs]

theorem exchanges_word {first : Char} {more : List Char} (rule : Rule)
    (chars : (first :: more).all isIdentChar) (plain : isNumeralStart first = false) :
    (Peg.leaf rule (word (first :: more))).Exchanges exchange :=
  Peg.exchanges_leaf (inside_word chars) rule fun _ rest starts =>
    consume_word_eq_none plain starts rest

/-- No name begins like a numeral. -/
theorem consume_identLetters_eq_none {first : Char} (starts : isNumeralStart first = true)
    (more : List Char) : identLetters.consume (first :: more) = none := by
  refine Peg.consume_andThen_eq_none (Peg.consume_satisfy_eq_none ?_ more)
  cases named : isIdentStart first with
  | false => rfl
  | true =>
      rw [isNumeralStart, isDigit_of_isIdentStart named, Bool.false_or, beq_iff_eq] at starts
      exact absurd starts (ne_dash_of_isIdentStart named)

theorem exchanges_ident : ident.Exchanges exchange :=
  Peg.exchanges_leaf inside_identLetters .ident fun _ more starts =>
    consume_identLetters_eq_none starts more

theorem exchanges_primary : primary.Exchanges exchange := by
  have path : path.Exchanges exchange := Peg.exchanges_leaf inside_path .path fun _ more starts =>
    Peg.consume_andThen_eq_none (consume_identLetters_eq_none starts more)
  have boolean : boolean.Exchanges exchange :=
    Peg.exchanges_leaf inside_boolean .boolean fun _ more starts =>
      (Peg.consume_orElse_of_none (consume_word_eq_none rfl starts more)).trans
        (consume_word_eq_none rfl starts more)
  have nil : Grammar.nil.Exchanges exchange :=
    Peg.exchanges_leaf inside_nil .nil fun _ more starts =>
      (Peg.consume_orElse_of_none (consume_word_eq_none rfl starts more)).trans
        (consume_word_eq_none rfl starts more)
  have literal : Grammar.literal.Exchanges exchange :=
    (Peg.exchanges_numeral (Peg.exchanges_string.orElse (boolean.orElse nil))).node rfl
  exact (literal.orElse path).node rfl

theorem exchanges_comparisonOperator : comparisonOperator.Exchanges exchange := by
  have operator (rule : Rule) (other : rule ≠ .float ∧ rule ≠ .int) {word : List Char}
      (plain : word.all fun char => !isNumeralStart char) :
      (Peg.node rule (.literal word)).Exchanges exchange :=
    (Peg.exchanges_literal plain).node_of_silent (Peg.silent_of_map_consume fun _ => rfl) other
  have unequal : (Peg.node .unequal
      ((Peg.literal "!=".toList).orElse (.literal "<>".toList))).Exchanges exchange :=
    ((Peg.exchanges_literal (by decide)).orElse (Peg.exchanges_literal (by decide))).node_of_silent
      ((Peg.silent_of_map_consume fun _ => rfl).orElse (Peg.silent_of_map_consume fun _ => rfl))
      (by decide)
  exact (operator .equal (by decide) (by decide)).orElse <| unequal.orElse <|
    (operator .lessOrEqual (by decide) (by decide)).orElse <|
    (operator .greaterOrEqual (by decide) (by decide)).orElse <|
    (operator .less (by decide) (by decide)).orElse <|
    (operator .greater (by decide) (by decide)).orElse <|
    exchanges_word exchange .contains (by decide) (by decide)

theorem exchanges_comparison : comparison.Exchanges exchange :=
  ((exchanges_primary exchange).andThen
    ((exchanges_comparisonOperator exchange).andThen
      (exchanges_primary exchange)).optional).node rfl

theorem exchanges_or : Grammar.or.Exchanges exchange :=
  exchanges_word exchange .or (by decide) (by decide)

theorem exchanges_filters : filters.Exchanges exchange := by
  have argument : ((char ':').andThen primary).optional.Exchanges exchange :=
    ((Peg.exchanges_char rfl).andThen (exchanges_primary exchange)).optional
  have filter : Grammar.filter.Exchanges exchange :=
    ((exchanges_ident exchange).andThen argument).node rfl
  exact ((Peg.exchanges_char rfl).andThen filter).many (Peg.guards_char rfl).advances

theorem exchanges_output : (comparison.andThen (filters.andThen endOfTag)).Exchanges exchange :=
  (exchanges_comparison exchange).andThen
    ((exchanges_filters exchange).andThen Peg.exchanges_endOfTag)

theorem exchanges_outputTag : outputTag.Exchanges exchange :=
  (exchanges_output exchange).node rfl

theorem exchanges_assignTag : assignTag.Exchanges exchange :=
  ((exchanges_ident exchange).andThen
    ((Peg.exchanges_char rfl).andThen (exchanges_output exchange))).node rfl

theorem exchanges_conditionTag : conditionTag.Exchanges exchange := by
  have connective : (Grammar.and.orElse Grammar.or).Exchanges exchange :=
    (exchanges_word exchange .and (by decide) (by decide)).orElse (exchanges_or exchange)
  have condition : Grammar.condition.Exchanges exchange :=
    ((exchanges_comparison exchange).andThen
      ((connective.andThen (exchanges_comparison exchange)).many
        guards_connective.advances)).node rfl
  exact (condition.andThen Peg.exchanges_endOfTag).node rfl

theorem exchanges_caseTag : caseTag.Exchanges exchange :=
  ((exchanges_primary exchange).andThen Peg.exchanges_endOfTag).node rfl

theorem exchanges_whenTag : whenTag.Exchanges exchange := by
  have separator : (Grammar.or.orElse (char ',')).Exchanges exchange :=
    (exchanges_or exchange).orElse (Peg.exchanges_char rfl)
  have values : ((Grammar.or.orElse (char ',')).andThen primary).many.Exchanges exchange :=
    (separator.andThen (exchanges_primary exchange)).many
      (guards_or.orElse (Peg.guards_char rfl)).advances
  exact ((exchanges_primary exchange).andThen (values.andThen Peg.exchanges_endOfTag)).node rfl

end

end Grammar

end Stencil
