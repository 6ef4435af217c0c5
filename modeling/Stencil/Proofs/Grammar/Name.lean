import Stencil.Proofs.Grammar.Reading

/-!
# Reading names and paths

A name or a path is read as far as it goes, before anything that it could not
go on with.
-/

namespace Stencil

namespace Grammar

/-- The names that the grammar knows as identifiers. -/
def isName : List Char → Bool
  | [] => false
  | first :: more => isIdentStart first && more.all isIdentChar

/-- The parts of a path behind its head: identifiers, or runs of digits. -/
def isSegment (segment : List Char) : Bool :=
  isName segment || !segment.isEmpty && segment.all Char.isDigit

/-- The names that are read as literals. -/
def literalWords : List (List Char) :=
  ["true".toList, "false".toList, "nil".toList, "null".toList]

theorem exists_of_isName {name : List Char} (named : isName name) :
    ∃ first more, name = first :: more ∧ isIdentStart first ∧ ∀ char ∈ more, isIdentChar char := by
  cases name with
  | nil => cases named
  | cons first more =>
      simp only [isName, Bool.and_eq_true, List.all_eq_true] at named
      exact ⟨first, more, rfl, named⟩

theorem isIdentChar_of_mem_name {name : List Char} (named : isName name) :
    ∀ char ∈ name, isIdentChar char := by
  obtain ⟨first, more, rfl, starts, goesOn⟩ := exists_of_isName named
  exact List.forall_mem_cons.2 ⟨isIdentChar_of_isIdentStart starts, goesOn⟩

theorem isIdentChar_of_mem_segment {segment : List Char} (part : isSegment segment) :
    ∀ char ∈ segment, isIdentChar char := by
  rw [isSegment, Bool.or_eq_true] at part
  rcases part with named | digits
  · exact isIdentChar_of_mem_name named
  · simp only [Bool.and_eq_true, List.all_eq_true] at digits
    exact fun char member => isIdentChar_of_isDigit (digits.2 char member)

theorem point_not_mem_of_forall_isIdentChar {name : List Char}
    (chars : ∀ char ∈ name, isIdentChar char) : '.' ∉ name :=
  fun member => absurd (chars '.' member) (by decide)

theorem isDigit_of_isIdentStart {char : Char} (starts : isIdentStart char = true) :
    char.isDigit = false := by
  cases digit : char.isDigit with
  | false => rfl
  | true =>
      have above := toNat_of_isIdentStart starts
      have below := toNat_of_isDigit digit
      omega

theorem ne_dash_of_isIdentStart {char : Char} (starts : isIdentStart char = true) :
    char ≠ '-' := by
  rintro rfl
  exact absurd starts (by decide)

section WordEnds

variable {rest : List Char} (ends : WordEnds rest)

include ends

theorem consume_identLetters {name : List Char} (named : isName name) :
    identLetters.consume (name ++ rest) = some (name, rest) := by
  obtain ⟨first, more, rfl, starts, goesOn⟩ := exists_of_isName named
  obtain ⟨taken, left⟩ := Text.span_append_eq goesOn ends
  refine Peg.consume_andThen (Peg.consume_satisfy starts (more ++ rest)) ?_
  rw [Peg.consume_many_satisfy, taken, left]

theorem read_ident {name : List Char} (named : isName name) :
    ident.read (name ++ rest) = some ([⟨.ident, name, name ++ rest, []⟩], rest) :=
  Peg.read_leaf (consume_identLetters ends named)

theorem consume_digits {digits : List Char} (nonempty : digits ≠ [])
    (all : ∀ char ∈ digits, char.isDigit = true) :
    digit.oneOrMore.consume (digits ++ rest) = some (digits, rest) := by
  obtain ⟨first, more, rfl⟩ := List.exists_cons_of_ne_nil nonempty
  obtain ⟨starts, goesOn⟩ := List.forall_mem_cons.1 all
  have noDigit (char : Char) (here : rest.head? = some char) : char.isDigit = false := by
    have other := ends char here
    cases isDigit : char.isDigit with
    | false => rfl
    | true =>
        rw [isIdentChar_of_isDigit isDigit] at other
        cases other
  obtain ⟨taken, left⟩ := Text.span_append_eq goesOn noDigit
  refine Peg.consume_andThen (Peg.consume_satisfy starts (more ++ rest)) ?_
  rw [digit, Peg.consume_many_satisfy, taken, left]

theorem consume_segmentLetters {segment : List Char} (part : isSegment segment) :
    (identLetters.orElse digit.oneOrMore).consume (segment ++ rest) = some (segment, rest) := by
  cases named : isName segment with
  | true => exact Peg.consume_orElse_of_some (consume_identLetters ends named)
  | false =>
      rw [isSegment, named, Bool.false_or, Bool.and_eq_true] at part
      obtain ⟨nonempty, digits⟩ := part
      cases segment with
      | nil => cases nonempty
      | cons first more =>
          have noName : identLetters.consume (first :: more ++ rest) = none := by
            have isDigit : first.isDigit = true := List.all_eq_true.1 digits first (by simp)
            have noStart : isIdentStart first = false := by
              cases starts : isIdentStart first with
              | false => rfl
              | true => rw [isDigit_of_isIdentStart starts] at isDigit; cases isDigit
            exact Peg.consume_andThen_eq_none (Peg.consume_satisfy_eq_none noStart _)
          rw [Peg.consume_orElse_of_none noName]
          exact consume_digits ends (by simp) (List.all_eq_true.1 digits)

theorem consume_segment {segment : List Char} (part : isSegment segment) :
    ((char '.').andThen (identLetters.orElse digit.oneOrMore)).consume
      ('.' :: segment ++ rest) = some ('.' :: segment, rest) :=
  Peg.consume_andThen (Peg.consume_satisfy rfl (segment ++ rest)) (consume_segmentLetters ends part)

end WordEnds

/-- The text of a path: a name, and each further part behind a point. -/
def pathLetters (head : List Char) (segments : List (List Char)) : List Char :=
  head ++ segments.flatMap fun segment => '.' :: segment

/-- A part of a path ends where another one begins, and where the path does. -/
theorem Detached.wordEnds_segments {rest : List Char} (detached : Detached rest)
    (segments : List (List Char)) :
    WordEnds ((segments.flatMap fun segment => '.' :: segment) ++ rest) := by
  cases segments with
  | nil => exact detached.wordEnds
  | cons next segments => exact wordEnds_cons (by decide) _

theorem repeats_segments {segments : List (List Char)} {rest : List Char}
    (parts : ∀ segment ∈ segments, isSegment segment) (detached : Detached rest) :
    Peg.Repeats ((char '.').andThen (identLetters.orElse digit.oneOrMore)).consume
      ((segments.flatMap fun segment => '.' :: segment) ++ rest)
      (segments.map fun segment => '.' :: segment) rest := by
  induction segments with
  | nil =>
      refine .stop ?_
      cases rest with
      | nil => rfl
      | cons first rest =>
          have noPoint : first ≠ '.' := by simpa using detached.noPoint
          exact Peg.consume_andThen_eq_none (Peg.consume_satisfy_eq_none (by simpa using noPoint) _)
  | cons segment segments ih =>
      obtain ⟨here, later⟩ := List.forall_mem_cons.1 parts
      rw [List.flatMap_cons, List.append_assoc, List.map_cons]
      refine .next (consume_segment (detached.wordEnds_segments segments) here) ?_ (ih later)
      simp only [List.length_append, List.length_cons]
      omega

theorem consume_path {head : List Char} {segments : List (List Char)} {rest : List Char}
    (named : isName head) (parts : ∀ segment ∈ segments, isSegment segment)
    (detached : Detached rest) :
    (identLetters.andThen
        ((char '.').andThen (identLetters.orElse digit.oneOrMore)).many).consume
      (pathLetters head segments ++ rest) = some (pathLetters head segments, rest) := by
  rw [pathLetters, List.append_assoc, List.flatMap_def]
  refine Peg.consume_andThen ?_ (Peg.consume_many (repeats_segments parts detached))
  exact consume_identLetters (detached.wordEnds_segments segments) named

end Grammar

end Stencil
