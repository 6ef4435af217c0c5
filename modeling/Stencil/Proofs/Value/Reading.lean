import Stencil.Proofs.Value.Json
import Stencil.Value.JsonReader

/-!
# Reading JSON texts back

The JSON form of a value whose numbers are integers is read back as the value,
with a string in the place of each object.  So mappings of such values that show
alike are the same but for their objects.
-/

namespace Stencil

namespace Json

/-! ## Strings -/

theorem hexValue?_hexDigit {digit : Nat} (bound : digit < 16) :
    hexValue? (hexDigit digit) = some digit := by
  have all : ∀ digit < 16, hexValue? (hexDigit digit) = some digit := by decide
  exact all digit bound

theorem readUnicode?_control {char : Char} (control : char.toNat < 32) (rest : List Char) :
    readUnicode? ('0' :: '0' :: hexDigit (char.toNat / 16) :: hexDigit (char.toNat % 16) :: rest) =
      some (char, rest) := by
  have zero : hexValue? '0' = some 0 := by decide
  have high : hexValue? (hexDigit (char.toNat / 16)) = some (char.toNat / 16) :=
    hexValue?_hexDigit (by omega)
  have low : hexValue? (hexDigit (char.toNat % 16)) = some (char.toNat % 16) :=
    hexValue?_hexDigit (by omega)
  have whole : ((0 * 16 + 0) * 16 + char.toNat / 16) * 16 + char.toNat % 16 = char.toNat := by
    omega
  have basic : char.toNat < 0xD800 ∨ 0xE000 ≤ char.toNat := by omega
  simp only [readUnicode?, readUnit?, zero, high, low, bind, Option.bind_some, pure, whole,
    if_pos basic, Char.ofNat_toNat]

/-- A character stands for itself in a string, or its escape is read back. -/
theorem escape_cases (char : Char) :
    (escape char = [char] ∧ char ≠ '"' ∧ char ≠ '\\' ∧ ¬ char.toNat < 32) ∨
      ∃ spelled, escape char = '\\' :: spelled ∧
        ∀ rest, readEscape? (spelled ++ rest) = some (char, rest) := by
  have code {number : Nat} (same : char.toNat = number) : Char.ofNat number = char := by
    rw [← same, Char.ofNat_toNat]
  unfold escape
  split_ifs with quote backslash lineFeed carriageReturn tab backspace formFeed control
  · exact .inr ⟨['"'], rfl, fun rest => by rw [quote]; rfl⟩
  · exact .inr ⟨['\\'], rfl, fun rest => by rw [backslash]; rfl⟩
  · exact .inr ⟨['n'], rfl, fun rest => by rw [lineFeed]; rfl⟩
  · exact .inr ⟨['r'], rfl, fun rest => by rw [carriageReturn]; rfl⟩
  · exact .inr ⟨['t'], rfl, fun rest => by rw [tab]; rfl⟩
  · exact .inr ⟨['b'], rfl, fun rest => by rw [← code backspace]; rfl⟩
  · exact .inr ⟨['f'], rfl, fun rest => by rw [← code formFeed]; rfl⟩
  · exact .inr ⟨_, rfl, readUnicode?_control control⟩
  · exact .inl ⟨rfl, quote, backslash, control⟩

theorem readString?_flatMap_escape {text bound : List Char} (enough : text.length < bound.length)
    (rest : List Char) :
    readString? bound (text.flatMap escape ++ '"' :: rest) = some (text, rest) := by
  induction text generalizing bound with
  | nil =>
      obtain ⟨first, bound, rfl⟩ := List.exists_cons_of_length_pos enough
      rfl
  | cons char text ih =>
      obtain ⟨first, bound, rfl⟩ := List.exists_cons_of_length_pos (Nat.zero_lt_of_lt enough)
      have later := ih (Nat.lt_of_succ_lt_succ enough)
      rw [List.flatMap_cons, List.append_assoc]
      rcases escape_cases char with ⟨plain, quote, backslash, visible⟩ | ⟨spelled, escaped, read⟩
      · rw [plain, List.singleton_append, readString?, if_neg quote, if_neg backslash,
          if_neg visible, later]
        rfl
      · rw [escaped, List.cons_append, readString?, if_neg (by decide), if_pos rfl, read]
        dsimp only [bind, Option.bind_some]
        rw [later]
        rfl

theorem length_le_flatMap_escape (text : List Char) :
    text.length ≤ (text.flatMap escape).length := by
  induction text with
  | nil => exact Nat.zero_le _
  | cons char text ih =>
      have nonempty : 0 < (escape char).length := by
        rcases escape_cases char with ⟨plain, -⟩ | ⟨spelled, escaped, -⟩ <;> simp [*]
      rw [List.flatMap_cons, List.length_append, List.length_cons]
      omega

/-- A quoted text is read back behind its first quote, whatever follows it. -/
theorem readString?_quoted (text rest : List Char) :
    readString? (text.flatMap escape ++ '"' :: rest) (text.flatMap escape ++ '"' :: rest) =
      some (text, rest) := by
  have longer := length_le_flatMap_escape text
  refine readString?_flatMap_escape ?_ rest
  rw [List.length_append, List.length_cons]
  omega

/-! ## Numbers -/

/-- No number goes on with a text. -/
def Ends (text : List Char) : Prop :=
  ∀ char ∈ text.head?, char.isDigit = false ∧ char ≠ '.' ∧ char ≠ 'e' ∧ char ≠ 'E'

theorem ends_cons {char : Char} (sign : char ∈ [',', ']', '}']) (rest : List Char) :
    Ends (char :: rest) := by
  intro other first
  obtain rfl := Option.some.inj first
  simp only [List.mem_cons, List.not_mem_nil, or_false] at sign
  rcases sign with rfl | rfl | rfl <;> decide

theorem readFraction?_of_ends {text : List Char} (ends : Ends text) :
    readFraction? text = some (none, text) := by
  unfold readFraction?
  split
  · exact absurd rfl (ends '.' rfl).2.1
  · rfl

theorem readExponent?_of_ends {text : List Char} (ends : Ends text) :
    readExponent? text = some (none, text) := by
  cases text with
  | nil => rfl
  | cons char text =>
      obtain ⟨-, -, lower, upper⟩ := ends char rfl
      rw [readExponent?, if_neg (by simp [lower, upper])]

/-- What is read of a number whose digits have no needless zero in front. -/
theorem readNumber?_append {digits rest : List Char} (whole : IsWhole digits) (ends : Ends rest) :
    readNumber? (digits ++ rest) = (wholeNumber? false digits).map (·, rest) ∧
      readNumber? ('-' :: digits ++ rest) = (wholeNumber? true digits).map (·, rest) := by
  have taken : (digits ++ rest).takeWhile Char.isDigit = digits := by
    rw [List.takeWhile_append_of_pos whole.digits]
    cases rest with
    | nil => simp
    | cons char rest => simp [(ends char rfl).1]
  have left : (digits ++ rest).dropWhile Char.isDigit = rest := by
    rw [List.dropWhile_append_of_pos whole.digits]
    cases rest with
    | nil => rfl
    | cons char rest => simp [(ends char rfl).1]
  have accepted : (digits.isEmpty || (digits.head? == some '0' && digits.length != 1)) = false := by
    have nonempty := whole.nonempty
    by_cases zero : digits.head? = some '0'
    · simp [whole.noZero zero]
    · simp [zero, nonempty]
  have unsigned : ∀ others, digits ++ rest = '-' :: others → False := by
    intro others same
    obtain ⟨digit, digits, rfl⟩ := List.exists_cons_of_ne_nil whole.nonempty
    have isDigit := whole.digits digit List.mem_cons_self
    rw [(List.cons.inj same).1] at isDigit
    exact absurd isDigit (by decide)
  have fraction := readFraction?_of_ends ends
  have exponent := readExponent?_of_ends ends
  -- The value is taken as it is before the matches are opened: it holds large bounds.
  constructor
  · rw [readNumber?]
    · rw [taken, left, accepted, if_neg Bool.false_ne_true, fraction]
      dsimp only [bind, Option.bind_some]
      rw [exponent]
      generalize wholeNumber? false digits = value
      cases value <;> rfl
    · exact unsigned
  · rw [List.cons_append, readNumber?, taken, left, accepted, if_neg Bool.false_ne_true, fraction]
    dsimp only [bind, Option.bind_some]
    rw [exponent]
    generalize wholeNumber? true digits = value
    cases value <;> rfl

theorem wholeNumber?_toDigits (value : Int)
    (inRange : -9223372036854775808 ≤ value ∧ value < 18446744073709551616) :
    wholeNumber? (decide (value < 0)) (Nat.toDigits 10 value.natAbs) =
      some (.number (.integer value inRange)) := by
  have signed : Decimal.signed (decide (value < 0)) value.natAbs = value := by
    by_cases negative : value < 0
    · rw [decide_eq_true negative, Decimal.signed, if_pos rfl]
      omega
    · rw [decide_eq_false negative, Decimal.signed, if_neg Bool.false_ne_true]
      omega
  have noZero : (decide (value < 0) && value.natAbs == 0) = false := by
    rw [Bool.and_eq_false_imp]
    intro negative
    have below := of_decide_eq_true negative
    exact beq_eq_false_iff_ne.2 (by omega)
  rw [wholeNumber?, Decimal.ofDigits_toDigits, signed, Number.ofInt?, dif_pos inRange]
  simp only [noZero]
  rfl

theorem exists_writeInteger_cons (value : Int) :
    ∃ first chars, Decimal.writeInteger value = first :: chars ∧
      (first = '-' ∨ first.isDigit = true) := by
  have whole := isWhole_toDigits value.natAbs
  obtain ⟨digit, digits, same⟩ := List.exists_cons_of_ne_nil whole.nonempty
  unfold Decimal.writeInteger
  split
  · exact ⟨_, _, rfl, .inl rfl⟩
  · exact ⟨digit, digits, same, .inr (whole.digits digit (by rw [same]; exact List.mem_cons_self))⟩

/-- What the first character of an integer is not. -/
theorem not_mem_of_numeral {first : Char} (numeral : first = '-' ∨ first.isDigit = true) :
    first ∉ [' ', '\n', '\t', '\r', ']', 'n', 't', 'f', '"', '[', '{'] := by
  have all : [' ', '\n', '\t', '\r', ']', 'n', 't', 'f', '"', '[', '{'].all
      (fun other => other != '-' && !other.isDigit) = true := by decide
  intro member
  have differs := List.all_eq_true.1 all first member
  rcases numeral with rfl | digit
  · exact absurd differs (by decide)
  · rw [digit] at differs
    simp at differs

/-- An integer is read back, if no digits follow it. -/
theorem readNumber?_writeInteger (value : Int)
    (inRange : -9223372036854775808 ≤ value ∧ value < 18446744073709551616) {rest : List Char}
    (ends : Ends rest) :
    readNumber? (Decimal.writeInteger value ++ rest) =
      some (.number (.integer value inRange), rest) := by
  obtain ⟨natural, negative⟩ := readNumber?_append (isWhole_toDigits value.natAbs) ends
  have written := wholeNumber?_toDigits value inRange
  unfold Decimal.writeInteger
  by_cases below : value < 0
  · rw [decide_eq_true below] at written
    rw [if_pos below, negative, written]
    rfl
  · rw [decide_eq_false below] at written
    rw [if_neg below, natural, written]
    rfl

/-! ## Containers -/

/-- No blank is passed over where a text begins with something else. -/
theorem skipBlanks_cons {char : Char} (visible : char ∉ [' ', '\n', '\t', '\r'])
    (text : List Char) : skipBlanks (char :: text) = char :: text := by
  simp_all [skipBlanks]

theorem readValue?_number {char : Char} (first : char = '-' ∨ char.isDigit = true)
    (bound : Nat) (text : List Char) :
    readValue? (bound + 1) (char :: text) = readNumber? (char :: text) := by
  have other := not_mem_of_numeral first
  rw [readValue?, skipBlanks_cons fun member => other (List.mem_append_left _ member)]
  split <;> simp_all

theorem quote_append (text rest : List Char) :
    quote text ++ rest = '"' :: (text.flatMap escape ++ '"' :: rest) := by
  simp [quote]

theorem readValue?_quote (bound : Nat) (text rest : List Char) :
    readValue? (bound + 1) (quote text ++ rest) = some (.ofText text, rest) := by
  rw [quote_append, readValue?, skipBlanks_cons (by decide)]
  simp only [readString?_quoted]
  rfl

theorem readValue?_array {first : Char} (other : first ∉ [' ', '\n', '\t', '\r', ']'])
    (bound : Nat) (text : List Char) :
    readValue? (bound + 1) ('[' :: first :: text) =
      (readItems? bound (first :: text)).map fun (items, rest) => (.sequence items, rest) := by
  have visible := skipBlanks_cons (fun member => other (List.mem_append_left _ member)) text
  rw [readValue?, skipBlanks_cons (by decide)]
  simp only [visible]
  split
  · next same => simp_all
  · rfl

theorem readValue?_object (bound : Nat) (text : List Char) :
    readValue? (bound + 1) ('{' :: '"' :: text) =
      (readEntries? bound ('"' :: text)).map fun (entries, rest) =>
        (.mapping (Entries.ofList entries), rest) := by
  have visible : skipBlanks ('"' :: text) = '"' :: text := skipBlanks_cons (by decide) text
  rw [readValue?, skipBlanks_cons (by decide)]
  simp only [visible]
  rfl

theorem exists_intercalate_cons (first : Char) (chars : List Char) (texts : List (List Char)) :
    ∃ more, List.intercalate [','] ((first :: chars) :: texts) = first :: more := by
  cases texts with
  | nil => exact ⟨chars, List.intercalate_singleton⟩
  | cons text texts => exact ⟨_, List.intercalate_cons_cons⟩

section Parts

variable {bound : Nat} {text rest : List Char} {value : Value}

theorem readItems?_last (read : readValue? bound text = some (value, ']' :: rest)) :
    readItems? (bound + 1) text = some ([value], rest) := by
  rw [readItems?, read]
  rfl

theorem readItems?_more (read : readValue? bound text = some (value, ',' :: rest)) :
    readItems? (bound + 1) text =
      (readItems? bound rest).map fun (items, rest) => (value :: items, rest) := by
  rw [readItems?, read]
  rfl

theorem readEntries?_last (name : String)
    (read : readValue? bound text = some (value, '}' :: rest)) :
    readEntries? (bound + 1) (quote name.toList ++ ':' :: text) = some ([(name, value)], rest) := by
  have colon : skipBlanks (':' :: text) = ':' :: text := skipBlanks_cons (by decide) text
  have bracket : skipBlanks ('}' :: rest) = '}' :: rest := skipBlanks_cons (by decide) rest
  rw [quote_append, readEntries?, skipBlanks_cons (by decide)]
  simp only [readString?_quoted, colon, read, bracket, String.ofList_toList]

theorem readEntries?_more (name : String)
    (read : readValue? bound text = some (value, ',' :: rest)) :
    readEntries? (bound + 1) (quote name.toList ++ ':' :: text) =
      (readEntries? bound rest).map fun (entries, rest) => ((name, value) :: entries, rest) := by
  have colon : skipBlanks (':' :: text) = ':' :: text := skipBlanks_cons (by decide) text
  have comma : skipBlanks (',' :: rest) = ',' :: rest := skipBlanks_cons (by decide) rest
  rw [quote_append, readEntries?, skipBlanks_cons (by decide)]
  simp only [readString?_quoted, colon, read, comma, String.ofList_toList]

end Parts

end Json

namespace Value

/-! ## Values -/

/-- The JSON form of a value begins with no blank, and with no closing bracket. -/
theorem exists_json_cons {value : Value} (integral : ∀ numeral ∈ value.numbers, numeral.IsInteger) :
    ∃ first chars, value.json = first :: chars ∧ first ∉ [' ', '\n', '\t', '\r', ']'] := by
  cases value with
  | nil => exact ⟨_, _, rfl, by decide⟩
  | bool value => cases value <;> exact ⟨_, _, rfl, by decide⟩
  | number numeral =>
      cases numeral with
      | integer value inRange =>
          obtain ⟨first, chars, written, numeral⟩ := Json.exists_writeInteger_cons value
          exact ⟨first, chars, written, fun member =>
            Json.not_mem_of_numeral numeral (List.mem_append_left _ member)⟩
      | float value => exact (integral _ (List.mem_singleton_self _)).elim
  | string text => exact ⟨_, _, rfl, by decide⟩
  | sequence items => exact ⟨_, _, rfl, by decide⟩
  | mapping entries => exact ⟨_, _, rfl, by decide⟩
  | object host => exact ⟨_, _, rfl, by decide⟩

theorem names_detachEntries (entries : Entries Value) :
    Entries.names (detachEntries entries) = entries.names := by
  induction entries with
  | nil => rfl
  | cons entry entries ih => exact congrArg (entry.1 :: ·) ih

mutual

/-- The JSON form of a value is read back, whatever follows it that no number goes on with. -/
theorem readValue?_json : ∀ value : Value, (∀ part ∈ value.parts, part.NamesAscend) →
    (∀ numeral ∈ value.numbers, numeral.IsInteger) → ∀ (bound : Nat) (rest : List Char),
      2 * value.json.length ≤ bound + 1 → Json.Ends rest →
        Json.readValue? (bound + 1) (value.json ++ rest) = some (value.detach, rest)
  | .nil, _, _, _, _, _, _ => rfl
  | .bool true, _, _, _, _, _, _ => rfl
  | .bool false, _, _, _, _, _, _ => rfl
  | .number (.integer value inRange), _, _, bound, rest, _, ends => by
      obtain ⟨first, chars, written, digit⟩ := Json.exists_writeInteger_cons value
      have read := Json.readNumber?_writeInteger value inRange ends
      rw [json, Number.write]
      rw [written, List.cons_append] at read ⊢
      rw [Json.readValue?_number digit, read]
      rfl
  | .number (.float value), _, integral, _, _, _, _ =>
      (integral _ (List.mem_singleton_self _)).elim
  | .string text, _, _, bound, rest, _, _ => by
      rw [json, Json.readValue?_quote, ofText, String.ofList_toList]
      rfl
  | .sequence [], _, _, _, _, _, _ => rfl
  | .sequence (item :: items), ordered, integral, bound, rest, enough, _ => by
      have itemIntegral : ∀ numeral ∈ item.numbers, numeral.IsInteger := fun numeral member =>
        integral numeral (List.mem_append_left _ member)
      obtain ⟨first, chars, begins, visible⟩ := exists_json_cons itemIntegral
      obtain ⟨more, joined⟩ := Json.exists_intercalate_cons first chars (jsonItems items)
      rw [← begins, ← jsonItems] at joined
      rw [json, Json.enclose] at enough ⊢
      rw [List.length_append, List.length_cons, List.length_singleton] at enough
      obtain ⟨bound, rfl⟩ : ∃ less, bound = less + 2 := ⟨bound - 2, by omega⟩
      have read := readItems?_json (item :: items) (List.cons_ne_nil _ _)
        (List.forall_mem_cons.1 ordered).2 integral bound rest (by omega)
      rw [List.append_assoc, List.singleton_append, List.cons_append]
      rw [joined, List.cons_append] at read ⊢
      rw [Json.readValue?_array visible, read]
      rfl
  | .mapping [], _, _, _, _, _, _ => rfl
  | .mapping ((name, value) :: entries), ordered, integral, bound, rest, enough, _ => by
      obtain ⟨more, joined⟩ := Json.exists_intercalate_cons '"'
        (name.toList.flatMap Json.escape ++ ['"'] ++ ':' :: value.json) (jsonEntries entries)
      change List.intercalate [','] (jsonEntries ((name, value) :: entries)) = '"' :: more at joined
      rw [json, Json.enclose] at enough ⊢
      rw [List.length_append, List.length_cons, List.length_singleton] at enough
      obtain ⟨bound, rfl⟩ : ∃ less, bound = less + 2 := ⟨bound - 2, by omega⟩
      have ascending := (List.forall_mem_cons.1 ordered).1
      have read := readEntries?_json ((name, value) :: entries) (List.cons_ne_nil _ _)
        (List.forall_mem_cons.1 ordered).2 integral bound rest (by omega)
      have same : Entries.ofList (detachEntries ((name, value) :: entries)) =
          detachEntries ((name, value) :: entries) := Entries.Ascending.ofList_eq (by
        rw [Entries.Ascending, names_detachEntries]
        exact ascending)
      rw [List.append_assoc, List.singleton_append, List.cons_append]
      rw [joined, List.cons_append] at read ⊢
      rw [Json.readValue?_object, read, detach]
      exact congrArg (fun entries => some (mapping entries, rest)) same
  | .object host, _, _, bound, rest, _, _ => by
      rw [json, Json.readValue?_quote, ofText, String.ofList_toList]
      rfl

theorem readItems?_json : ∀ items : List Value, items ≠ [] →
    (∀ part ∈ partsOfItems items, part.NamesAscend) →
    (∀ numeral ∈ numbersOfItems items, numeral.IsInteger) → ∀ (bound : Nat) (rest : List Char),
      2 * (List.intercalate [','] (jsonItems items)).length ≤ bound + 1 →
        Json.readItems? (bound + 2) (List.intercalate [','] (jsonItems items) ++ ']' :: rest) =
          some (detachItems items, rest)
  | [], nonempty, _, _, _, _, _ => absurd rfl nonempty
  | [item], _, ordered, integral, bound, rest, enough => by
      rw [partsOfItems, List.forall_mem_append] at ordered
      rw [numbersOfItems, List.forall_mem_append] at integral
      rw [jsonItems, jsonItems, List.intercalate_singleton] at enough ⊢
      have read := readValue?_json item ordered.1 integral.1 bound (']' :: rest) enough
        (Json.ends_cons (by decide) rest)
      exact Json.readItems?_last read
  | item :: next :: items, _, ordered, integral, bound, rest, enough => by
      rw [partsOfItems, List.forall_mem_append] at ordered
      rw [numbersOfItems, List.forall_mem_append] at integral
      have joined : List.intercalate [','] (jsonItems (item :: next :: items)) =
          item.json ++ ',' :: List.intercalate [','] (jsonItems (next :: items)) := by
        rw [jsonItems, jsonItems, List.intercalate_cons_cons, List.append_assoc]
        rfl
      rw [joined, List.length_append, List.length_cons] at enough
      obtain ⟨bound, rfl⟩ : ∃ less, bound = less + 1 := ⟨bound - 1, by omega⟩
      have read := readValue?_json item ordered.1 integral.1 (bound + 1)
        (',' :: (List.intercalate [','] (jsonItems (next :: items)) ++ ']' :: rest)) (by omega)
        (Json.ends_cons (by decide) _)
      have later := readItems?_json (next :: items) (List.cons_ne_nil _ _) ordered.2 integral.2
        bound rest (by omega)
      rw [joined, List.append_assoc, List.cons_append, Json.readItems?_more read, later]
      rfl

theorem readEntries?_json : ∀ entries : List (String × Value), entries ≠ [] →
    (∀ part ∈ partsOfEntries entries, part.NamesAscend) →
    (∀ numeral ∈ numbersOfEntries entries, numeral.IsInteger) → ∀ (bound : Nat) (rest : List Char),
      2 * (List.intercalate [','] (jsonEntries entries)).length ≤ bound + 1 →
        Json.readEntries? (bound + 2) (List.intercalate [','] (jsonEntries entries) ++ '}' :: rest) =
          some (detachEntries entries, rest)
  | [], nonempty, _, _, _, _, _ => absurd rfl nonempty
  | [(name, value)], _, ordered, integral, bound, rest, enough => by
      rw [partsOfEntries, List.forall_mem_append] at ordered
      rw [numbersOfEntries, List.forall_mem_append] at integral
      rw [jsonEntries, jsonEntries, List.intercalate_singleton] at enough ⊢
      rw [List.length_append, List.length_cons] at enough
      have read := readValue?_json value ordered.1 integral.1 bound ('}' :: rest) (by omega)
        (Json.ends_cons (by decide) rest)
      rw [List.append_assoc, List.cons_append, Json.readEntries?_last name read]
      rfl
  | (name, value) :: next :: entries, _, ordered, integral, bound, rest, enough => by
      rw [partsOfEntries, List.forall_mem_append] at ordered
      rw [numbersOfEntries, List.forall_mem_append] at integral
      have joined : List.intercalate [','] (jsonEntries ((name, value) :: next :: entries)) =
          Json.quote name.toList ++ ':' :: (value.json ++
            ',' :: List.intercalate [','] (jsonEntries (next :: entries))) := by
        rw [jsonEntries, jsonEntries, List.intercalate_cons_cons]
        simp
      rw [joined, List.length_append, List.length_cons, List.length_append, List.length_cons]
        at enough
      obtain ⟨bound, rfl⟩ : ∃ less, bound = less + 1 := ⟨bound - 1, by omega⟩
      have read := readValue?_json value ordered.1 integral.1 (bound + 1)
        (',' :: (List.intercalate [','] (jsonEntries (next :: entries)) ++ '}' :: rest)) (by omega)
        (Json.ends_cons (by decide) _)
      have later := readEntries?_json (next :: entries) (List.cons_ne_nil _ _) ordered.2 integral.2
        bound rest (by omega)
      rw [joined, List.append_assoc, List.cons_append, List.append_assoc, List.cons_append,
        Json.readEntries?_more name read, later]
      rfl

end

theorem read?_json {value : Value} (ordered : ∀ part ∈ value.parts, part.NamesAscend)
    (integral : ∀ numeral ∈ value.numbers, numeral.IsInteger) :
    Json.read? value.json = some value.detach := by
  have read := readValue?_json value ordered integral (2 * value.json.length + 1) []
    (Nat.le_add_right _ 2) nofun
  rw [List.append_nil] at read
  rw [Json.read?, read]
  rfl

/-- Values that are the same but for their objects have the same JSON form, and no others have. -/
theorem json_eq_iff {first second : Value}
    (firstOrdered : ∀ part ∈ first.parts, part.NamesAscend)
    (firstIntegral : ∀ numeral ∈ first.numbers, numeral.IsInteger)
    (secondOrdered : ∀ part ∈ second.parts, part.NamesAscend)
    (secondIntegral : ∀ numeral ∈ second.numbers, numeral.IsInteger) :
    first.json = second.json ↔ first.detach = second.detach := by
  constructor
  · intro same
    have read := read?_json firstOrdered firstIntegral
    rw [same, read?_json secondOrdered secondIntegral] at read
    exact (Option.some.inj read).symm
  · intro same
    rw [← json_detach first, same, json_detach second]

theorem text_mapping (entries : Entries Value) :
    (mapping entries).text = (mapping entries).json :=
  String.toList_ofList

/--
The text of a mapping whose numbers are integers is compact JSON.  It is read
back as the mapping with the string of its text in the place of each object, so
that such mappings show alike only if they are the same but for their objects.
-/
theorem read?_text_mapping (entries : Entries Value)
    (ordered : ∀ part ∈ (mapping entries).parts, part.NamesAscend)
    (integral : ∀ numeral ∈ (mapping entries).numbers, numeral.IsInteger) :
    Json.IsCompact (mapping entries).text ∧
      Json.read? (mapping entries).text = some (mapping entries).detach ∧
      ∀ others : Entries Value, (∀ part ∈ (mapping others).parts, part.NamesAscend) →
        (∀ numeral ∈ (mapping others).numbers, numeral.IsInteger) →
          ((mapping entries).render = (mapping others).render ↔
            (mapping entries).detach = (mapping others).detach) := by
  rw [text_mapping]
  refine ⟨isCompact_json _ integral, read?_json ordered integral, ?_⟩
  intro others othersOrdered othersIntegral
  rw [← String.toList_inj]
  change (mapping entries).text = (mapping others).text ↔ _
  rw [text_mapping, text_mapping]
  exact json_eq_iff ordered integral othersOrdered othersIntegral

/-- Quotes, controls, empty containers and an object, which shows like a string. -/
theorem read?_text_mapping_nested :
    let host : HostObject Value := ⟨0, fun _ => none, fun _ => none, some "le\"to", "Named"⟩
    let entries (last : Value) : Entries Value :=
      [("", .sequence [.nil, .sequence [], .mapping [], .number (.integer (-70) (by decide))]),
        ("\"\\", .string "\x01é\n😀"), ("z", last)]
    let shown := mapping (entries (.object host))
    let plain := mapping (entries (.string "le\"to"))
    shown.render =
        "\x7b\"\":[null,[],\x7b\x7d,-70],\"\\\"\\\\\":\"\\u0001é\\n😀\",\"z\":\"le\\\"to\"\x7d" ∧
      Json.read? shown.text = some plain ∧ shown.render = plain.render := by
  intro host entries shown plain
  have ascending (last : Value) : (entries last).Ascending :=
    show List.Pairwise (· < ·) ["", "\"\\", "z"] by decide
  have ordered (last : Value) (alone : last.parts = [last]) (noNames : last.NamesAscend) :
      ∀ part ∈ (mapping (entries last)).parts, part.NamesAscend := by
    simp [entries, parts, partsOfItems, partsOfEntries, alone, NamesAscend]
    exact ⟨ascending last, Entries.ascending_nil, noNames⟩
  have integral (last : Value) (noNumbers : last.numbers = []) :
      ∀ numeral ∈ (mapping (entries last)).numbers, numeral.IsInteger := by
    simp [entries, numbers, numbersOfItems, numbersOfEntries, noNumbers, Number.IsInteger]
  obtain ⟨-, read, alike⟩ := read?_text_mapping (entries (.object host))
    (ordered (.object host) rfl trivial) (integral (.object host) rfl)
  have shows := (alike (entries (.string "le\"to")) (ordered (.string "le\"to") rfl trivial)
    (integral (.string "le\"to") rfl)).2 rfl
  exact ⟨by decide, read, shows⟩

end Value

end Stencil
