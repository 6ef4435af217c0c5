import Mathlib.Data.List.DropRight
import Stencil.Filter.Text

/-!
# Capitalizing words

Words are found by a search that goes as far as it can and then back to a boundary.
What it finds begins with the first word character of a run of word characters and
apostrophes, and nothing is found in what it leaves over of a run.
-/

namespace Stencil

namespace Filter

variable {before text rest behind : List Char} {char last : Char}

theorem isWordPart_of_isWordCharacter (isWord : Text.isWordCharacter char) : isWordPart char := by
  simp [isWordPart, isWord]

/-- No word character is among these. -/
def Wordless (chars : List Char) : Prop :=
  ∀ char ∈ chars, ¬ Text.isWordCharacter char

theorem wordless_cons {chars : List Char} :
    Wordless (char :: chars) ↔ ¬ Text.isWordCharacter char ∧ Wordless chars :=
  List.forall_mem_cons

/-- The word parts at the end of what stands before a place. -/
def runBefore (before : List Char) : List Char :=
  before.rtakeWhile isWordPart

/-- The word parts at the beginning of what stands behind a place. -/
def runBehind (text : List Char) : List Char :=
  text.takeWhile isWordPart

theorem runBefore_concat_of_isWordPart (isPart : isWordPart char) :
    runBefore (before ++ [char]) = runBefore before ++ [char] :=
  List.rtakeWhile_concat_pos _ _ _ isPart

theorem runBefore_concat_of_not (noPart : ¬ isWordPart char) : runBefore (before ++ [char]) = [] :=
  List.rtakeWhile_concat_neg _ _ _ noPart

theorem runBehind_cons_of_isWordPart (isPart : isWordPart char) :
    runBehind (char :: text) = char :: runBehind text :=
  List.takeWhile_cons_of_pos isPart

theorem runBehind_cons_of_not (noPart : ¬ isWordPart char) : runBehind (char :: text) = [] :=
  List.takeWhile_cons_of_neg noPart

/-- A word character just before a place is in the run there. -/
theorem not_wordless_runBefore (isLast : before.getLast? = some last)
    (isWord : Text.isWordCharacter last) : ¬ Wordless (runBefore before) := by
  obtain ⟨front, rfl⟩ := List.getLast?_eq_some_iff.1 isLast
  intro wordless
  rw [runBefore_concat_of_isWordPart (isWordPart_of_isWordCharacter isWord)] at wordless
  exact wordless last (by simp) isWord

/-! ## Finding a word -/

/-- There is no boundary to go back to just when all of the run are apostrophes. -/
theorem restOfWord?_eq_none_iff :
    restOfWord? last text = none ↔
      ¬ Text.isWordCharacter last ∧ Wordless (runBehind text) := by
  induction text generalizing last with
  | nil => simp [restOfWord?, isWordBoundary, Wordless, runBehind]
  | cons char chars ih =>
      rw [restOfWord?]
      by_cases isPart : isWordPart char
      · rw [if_pos isPart, runBehind_cons_of_isWordPart isPart, wordless_cons, ← ih]
        cases found : restOfWord? char chars with
        | some parts => simp
        | none =>
            have noWord := (ih.1 found).1
            simp [isWordBoundary, noWord]
      · have noWord := mt isWordPart_of_isWordCharacter isPart
        rw [if_neg isPart, runBehind_cons_of_not isPart]
        simp [isWordBoundary, noWord, Wordless]

/-- The rest of a word are word parts, and none of the parts left behind it is a word character. -/
theorem parts_of_restOfWord? (found : restOfWord? last text = some (rest, behind)) :
    (∀ char ∈ rest, isWordPart char) ∧ Wordless (runBehind behind) := by
  induction text generalizing last rest with
  | nil =>
      simp only [restOfWord?, Option.ite_none_right_eq_some, Option.some.injEq,
        Prod.mk.injEq] at found
      obtain ⟨-, rfl, rfl⟩ := found
      simp [Wordless, runBehind]
  | cons char chars ih =>
      rw [restOfWord?] at found
      split at found
      · next longer tail extended =>
          obtain ⟨isPart, extended⟩ := Option.ite_none_right_eq_some.1 extended
          simp only [Option.some.injEq, Prod.mk.injEq] at found
          obtain ⟨rfl, rfl⟩ := found
          obtain ⟨parts, wordless⟩ := ih extended
          exact ⟨List.forall_mem_cons.2 ⟨isPart, parts⟩, wordless⟩
      · next stopped =>
          simp only [Option.ite_none_right_eq_some, Option.some.injEq, Prod.mk.injEq] at found
          obtain ⟨-, rfl, rfl⟩ := found
          refine ⟨by simp, ?_⟩
          by_cases isPart : isWordPart char
          · rw [if_pos isPart] at stopped
            rw [runBehind_cons_of_isWordPart isPart, wordless_cons]
            exact restOfWord?_eq_none_iff.1 stopped
          · rw [runBehind_cons_of_not isPart]
            simp [Wordless]

/-! ## The first word character of a run -/

/-- A word character before which there is none in its run. -/
def beginsWord (before : List Char) (char : Char) : Bool :=
  Text.isWordCharacter char && !(runBefore before).any Text.isWordCharacter

theorem beginsWord_iff :
    beginsWord before char ↔ Text.isWordCharacter char ∧ Wordless (runBefore before) := by
  simp [beginsWord, Wordless]

/-- A text behind another one, each character that begins a word being in upper case. -/
def capitalizeBehind (before : List Char) : List Char → List Char
  | [] => []
  | char :: chars =>
      (if beginsWord before char then Text.upperChar char else [char]) ++
        capitalizeBehind (before ++ [char]) chars

/-- In a run that has a word character already, no other one begins a word. -/
theorem capitalizeBehind_append_of_parts (parts : ∀ char ∈ rest, isWordPart char)
    (begun : ¬ Wordless (runBefore before)) :
    capitalizeBehind before (rest ++ behind) = rest ++ capitalizeBehind (before ++ rest) behind := by
  induction rest generalizing before with
  | nil => rw [List.nil_append, List.append_nil, List.nil_append]
  | cons char rest ih =>
      obtain ⟨isPart, parts⟩ := List.forall_mem_cons.1 parts
      have later : ¬ Wordless (runBefore (before ++ [char])) := by
        rw [runBefore_concat_of_isWordPart isPart]
        exact fun wordless => begun fun other member =>
          wordless other (List.mem_append_left _ member)
      have inside : ¬ beginsWord before char := fun begins => begun (beginsWord_iff.1 begins).2
      rw [List.cons_append, capitalizeBehind, if_neg inside, ih parts later, List.append_assoc]
      rfl

/-! ## Words in runs -/

theorem word?_cons_eq_some_iff {front : Option Char} {chars : List Char} {first : Char} :
    word? front (char :: chars) = some (first, rest, behind) ↔
      isWordBoundary front (some char) ∧ isWordPart char ∧ first = char ∧
        restOfWord? char chars = some (rest, behind) := by
  rw [word?, Option.ite_none_right_eq_some, Bool.and_eq_true, and_assoc, Option.map_eq_some_iff]
  refine and_congr_right fun _ => and_congr_right fun _ => ?_
  constructor
  · rintro ⟨parts, ended, same⟩
    cases same
    exact ⟨rfl, ended⟩
  · rintro ⟨rfl, ended⟩
    exact ⟨_, ended, rfl⟩

/-- On one side of a place, the run that goes through it has no word character. -/
def Settled (before text : List Char) : Prop :=
  Wordless (runBefore before) ∨ Wordless (runBehind text)

/-- Behind a run without a word character there is a boundary just before a word character. -/
theorem isWordBoundary_iff (wordless : Wordless (runBefore before)) :
    isWordBoundary before.getLast? (some char) ↔ Text.isWordCharacter char := by
  have noWord : before.getLast?.any Text.isWordCharacter = false := by
    cases isLast : before.getLast? with
    | none => rfl
    | some last =>
        simpa using fun isWord => not_wordless_runBefore isLast isWord wordless
  simp [isWordBoundary, noWord]

/-- What is found begins a word. -/
theorem beginsWord_of_word? {chars : List Char} {first : Char}
    (settled : Settled before (char :: chars))
    (found : word? before.getLast? (char :: chars) = some (first, rest, behind)) :
    beginsWord before char := by
  obtain ⟨boundary, isPart, -, ended⟩ := word?_cons_eq_some_iff.1 found
  rcases settled with inFront | toCome
  · exact beginsWord_iff.2 ⟨(isWordBoundary_iff inFront).1 boundary, inFront⟩
  · rw [runBehind_cons_of_isWordPart isPart, wordless_cons] at toCome
    rw [restOfWord?_eq_none_iff.2 toCome] at ended
    cases ended

/-- A word is found wherever one begins. -/
theorem not_beginsWord_of_word? {chars : List Char}
    (missing : word? before.getLast? (char :: chars) = none) : ¬ beginsWord before char := by
  intro begins
  obtain ⟨isWord, inFront⟩ := beginsWord_iff.1 begins
  cases ended : restOfWord? char chars with
  | none => exact (restOfWord?_eq_none_iff.1 ended).1 isWord
  | some parts =>
      have found := word?_cons_eq_some_iff.2 ⟨(isWordBoundary_iff inFront).2 isWord,
        isWordPart_of_isWordCharacter isWord, rfl, ended⟩
      rw [missing] at found
      cases found

theorem Settled.concat {chars : List Char} (settled : Settled before (char :: chars))
    (inside : ¬ beginsWord before char) : Settled (before ++ [char]) chars := by
  by_cases isPart : isWordPart char
  · rcases settled with inFront | toCome
    · have noWord : ¬ Text.isWordCharacter char := fun isWord =>
        inside (beginsWord_iff.2 ⟨isWord, inFront⟩)
      refine .inl ?_
      rw [runBefore_concat_of_isWordPart isPart]
      exact List.forall_mem_append.2 ⟨inFront, List.forall_mem_singleton.2 noWord⟩
    · rw [runBehind_cons_of_isWordPart isPart, wordless_cons] at toCome
      exact .inr toCome.2
  · refine .inl ?_
    rw [runBefore_concat_of_not isPart]
    exact List.forall_mem_nil _

/-- The search for words finds all that begin a word, and nothing else. -/
theorem capitalizeWords_eq (settled : Settled before text) :
    capitalizeWords before.getLast? text = capitalizeBehind before text := by
  induction size : text.length using Nat.strongRecOn generalizing before text with
  | ind bound hypothesis =>
      rw [capitalizeWords]
      split
      · next first rest behind found =>
          obtain rfl := eq_append_of_word? found
          have begins := beginsWord_of_word? settled found
          obtain ⟨-, isPart, -, ended⟩ := word?_cons_eq_some_iff.1 found
          obtain ⟨parts, toCome⟩ := parts_of_restOfWord? ended
          have isFirst : (before ++ [first]).getLast? = some first := List.getLast?_concat
          have begun := not_wordless_runBefore isFirst (beginsWord_iff.1 begins).1
          have shorter : behind.length < bound := by
            rw [← size]
            simp only [List.length_cons, List.length_append]
            omega
          have settledBehind : Settled (before ++ [first] ++ rest) behind := .inr toCome
          have later := hypothesis _ shorter settledBehind rfl
          rw [List.getLast?_append, isFirst] at later
          rw [capitalizeBehind, if_pos begins, capitalizeBehind_append_of_parts parts begun, later,
            List.append_assoc, Text.upper, List.flatMap_singleton]
      · next missing =>
          cases text with
          | nil => rfl
          | cons char chars =>
              have inside := not_beginsWord_of_word? missing
              have shorter : chars.length < bound := by
                rw [← size]
                exact Nat.lt_add_one _
              have later := hypothesis _ shorter (settled.concat inside) rfl
              rw [List.getLast?_concat] at later
              rw [capitalizeBehind, if_neg inside, ← later]
              rfl

/-! ## Maximal runs -/

/-- Word parts in a text, with no other one next to them. -/
structure IsRun (before run behind : List Char) : Prop where
  parts : ∀ char ∈ run, isWordPart char
  noneBefore : ∀ char ∈ before.getLast?, ¬ isWordPart char
  noneBehind : ∀ char ∈ behind.head?, ¬ isWordPart char

/-- The character at a place in a text is the first word character of the run that it is in. -/
def LeadsRun (text : List Char) (place : Nat) : Prop :=
  ∃ before marks first rest behind, text = before ++ (marks ++ first :: rest) ++ behind ∧
    IsRun before (marks ++ first :: rest) behind ∧ Wordless marks ∧
    Text.isWordCharacter first ∧ place = before.length + marks.length

theorem runBefore_append {marks : List Char}
    (noneBefore : ∀ char ∈ before.getLast?, ¬ isWordPart char)
    (parts : ∀ char ∈ marks, isWordPart char) : runBefore (before ++ marks) = marks := by
  induction marks using List.reverseRecOn with
  | nil =>
      rw [List.append_nil, runBefore, List.rtakeWhile_eq_nil_iff]
      intro nonempty
      exact noneBefore _ (List.getLast?_eq_some_getLast nonempty)
  | append_singleton marks mark ih =>
      obtain ⟨earlier, isPart⟩ := List.forall_mem_append.1 parts
      rw [← List.append_assoc, runBefore_concat_of_isWordPart (isPart mark List.mem_cons_self),
        ih earlier]

/-- A word character is in the run that goes from the parts before it to the parts behind it. -/
theorem isRun_runBefore {chars : List Char} (isWord : Text.isWordCharacter char) :
    IsRun (before.rdropWhile isWordPart) (runBefore before ++ char :: runBehind chars)
      (chars.dropWhile isWordPart) where
  parts := by
    have isPart := isWordPart_of_isWordCharacter isWord
    exact List.forall_mem_append.2 ⟨fun _ => List.mem_rtakeWhile_imp,
      List.forall_mem_cons.2 ⟨isPart, fun _ => List.mem_takeWhile_imp⟩⟩
  noneBefore := by
    intro last isLast
    obtain ⟨nonempty, rfl⟩ := List.mem_getLast?_eq_getLast isLast
    exact List.rdropWhile_last_not _ _ nonempty
  noneBehind := by
    intro next isNext
    have stops := List.head?_dropWhile_not isWordPart chars
    rw [isNext] at stops
    simp [stops]

theorem leadsRun_iff {chars : List Char} :
    LeadsRun (before ++ char :: chars) before.length ↔ beginsWord before char := by
  rw [beginsWord_iff]
  constructor
  · rintro ⟨front, marks, first, rest, behind, whole, isRun, wordless, isWord, place⟩
    have split : before ++ char :: chars = front ++ marks ++ first :: (rest ++ behind) := by
      simpa using whole
    obtain ⟨rfl, same⟩ := List.append_inj split (by rw [place, List.length_append])
    obtain ⟨rfl, -⟩ := List.cons.inj same
    have marksParts := (List.forall_mem_append.1 isRun.parts).1
    rw [runBefore_append isRun.noneBefore marksParts]
    exact ⟨isWord, wordless⟩
  · rintro ⟨isWord, wordless⟩
    have isBefore : before.rdropWhile isWordPart ++ runBefore before = before :=
      List.rdropWhile_append_rtakeWhile
    have isChars : runBehind chars ++ chars.dropWhile isWordPart = chars :=
      List.takeWhile_append_dropWhile
    refine ⟨_, runBefore before, char, runBehind chars, _, ?_, isRun_runBefore isWord, wordless,
      isWord, ?_⟩
    · rw [← List.append_assoc, isBefore, List.append_assoc, List.cons_append, isChars]
    · rw [← List.length_append, isBefore]

theorem exists_eq_append_cons {place : Nat} (inside : place < text.length) :
    ∃ before char chars, text = before ++ char :: chars ∧ before.length = place := by
  refine ⟨text.take place, text[place], text.drop (place + 1), ?_, ?_⟩
  · rw [← List.drop_eq_getElem_cons, List.take_append_drop]
  · exact List.length_take_of_le (Nat.le_of_lt inside)

theorem LeadsRun.lt_length {place : Nat} (leads : LeadsRun text place) : place < text.length := by
  obtain ⟨before, marks, first, rest, behind, rfl, -, -, -, rfl⟩ := leads
  simp only [List.length_append, List.length_cons]
  omega

theorem leadsRun_iff_any {place : Nat} :
    LeadsRun text place ↔ text[place]?.any (beginsWord (text.take place)) := by
  by_cases inside : place < text.length
  · obtain ⟨before, char, chars, rfl, rfl⟩ := exists_eq_append_cons inside
    rw [leadsRun_iff]
    simp
  · refine iff_of_false (mt LeadsRun.lt_length inside) ?_
    rw [List.getElem?_eq_none (Nat.not_lt.1 inside)]
    exact Bool.false_ne_true

instance (text : List Char) (place : Nat) : Decidable (LeadsRun text place) :=
  decidable_of_iff _ leadsRun_iff_any.symm

/-- What leads a maximal run is the first word character in it. -/
theorem leadsRun_append_iff {run : List Char} (isRun : IsRun before run behind) {index : Nat}
    (inRun : index < run.length) :
    LeadsRun (before ++ run ++ behind) (before.length + index) ↔
      index = run.findIdx Text.isWordCharacter := by
  obtain ⟨marks, char, rest, rfl, rfl⟩ := exists_eq_append_cons inRun
  have marksParts := (List.forall_mem_append.1 isRun.parts).1
  have place := @leadsRun_iff (before ++ marks) char (rest ++ behind)
  rw [List.length_append, beginsWord_iff, runBefore_append isRun.noneBefore marksParts] at place
  have whole : before ++ (marks ++ char :: rest) ++ behind =
      before ++ marks ++ char :: (rest ++ behind) := by simp
  rw [whole, place, List.findIdx_append]
  by_cases wordless : Wordless marks
  · have none : ¬ marks.findIdx Text.isWordCharacter < marks.length := by
      simpa [Wordless] using wordless
    rw [if_neg none, List.findIdx_cons]
    cases Text.isWordCharacter char <;> simp [wordless]
  · have some : marks.findIdx Text.isWordCharacter < marks.length := by
      simpa [Wordless] using wordless
    rw [if_pos some]
    exact iff_of_false (fun leads => wordless leads.2) (Nat.ne_of_gt some)

theorem capitalizeBehind_eq (before text : List Char) :
    capitalizeBehind before text =
      (text.zipIdx before.length).flatMap fun entry =>
        if LeadsRun (before ++ text) entry.2 then Text.upperChar entry.1 else [entry.1] := by
  induction text generalizing before with
  | nil => rfl
  | cons char chars ih =>
      have later := ih (before ++ [char])
      rw [List.append_assoc, List.singleton_append, List.length_append, List.length_singleton] at later
      rw [capitalizeBehind, later, List.zipIdx_cons, List.flatMap_cons]
      by_cases begins : beginsWord before char
      · rw [if_pos begins, if_pos (leadsRun_iff.2 begins)]
      · rw [if_neg begins, if_neg (mt leadsRun_iff.1 begins)]

/--
Capitalizing the words of a value.  Each character of its text stays in its place,
apart from those that lead a maximal run of word characters and apostrophes, which
are replaced by their upper case.  In such a run this is the first word character
and no other one, whatever apostrophes stand before, between and behind them.
-/
theorem capitalize_runs (value : Value) (argument : Option Value) :
    capitalize value argument = .ofText (value.text.zipIdx.flatMap fun entry =>
        if LeadsRun value.text entry.2 then Text.upperChar entry.1 else [entry.1]) ∧
      ∀ before run behind, value.text = before ++ run ++ behind → IsRun before run behind →
        ∀ index < run.length, LeadsRun value.text (before.length + index) ↔
          index = run.findIdx Text.isWordCharacter := by
  have settled : Settled [] value.text := .inl (List.forall_mem_nil _)
  constructor
  · rw [capitalize, ← List.getLast?_nil, capitalizeWords_eq settled, capitalizeBehind_eq]
    rfl
  · intro before run behind whole isRun index inRun
    rw [whole]
    exact leadsRun_append_iff isRun inRun

/-- Apostrophes before a word, in it and behind it; `ß` has two letters in upper case. -/
theorem capitalize_runs_quoted :
    let value := Value.string "''ß''a' 'b"
    let run := ['\x27', '\x27', 'ß', '\x27', '\x27', 'a', '\x27']
    value.text = [] ++ run ++ [' ', '\x27', 'b'] ∧ IsRun [] run [' ', '\x27', 'b'] ∧
      capitalize value none = .string "''SS''a' 'B" ∧
      LeadsRun value.text 2 ∧ ¬ LeadsRun value.text 5 := by
  intro value run
  have isText : value.text = [] ++ run ++ [' ', '\x27', 'b'] := by decide
  have isRun : IsRun [] run [' ', '\x27', 'b'] := {
    parts := List.all_eq_true.1 (by decide +kernel : run.all isWordPart)
    noneBefore := nofun
    noneBehind := by
      rintro next ⟨⟩
      decide +kernel }
  obtain ⟨capitalized, leads⟩ := capitalize_runs value none
  have leading := leads [] run [' ', '\x27', 'b'] isText isRun
  have isFirst : run.findIdx Text.isWordCharacter = 2 := by decide +kernel
  rw [isFirst] at leading
  refine ⟨isText, isRun, ?_, (leading 2 (by decide)).2 rfl, ?_⟩
  · rw [capitalized]
    refine congrArg Value.string (String.toList_injective ?_)
    rw [String.toList_ofList]
    decide +kernel
  · exact mt (leading 5 (by decide)).1 (by decide)

end Filter

end Stencil
