import Stencil.Filter.Arithmetic

/-!
# Operands

Which values count as which integers for the filters on numbers.
-/

namespace Stencil

namespace Filter

namespace Operand

/-- An integer of signed 64 bits. -/
def Fits (value : Int) : Prop :=
  -9223372036854775808 ≤ value ∧ value < 9223372036854775808

instance (value : Int) : Decidable (Fits value) :=
  inferInstanceAs (Decidable (_ ∧ _))

theorem fitting?_eq (value : Int) : fitting? value = if Fits value then some value else none :=
  rfl

theorem bind_fitting?_eq_some_iff {read : Option Int} {value : Int} :
    read.bind fitting? = some value ↔ read = some value ∧ Fits value := by
  rw [Option.bind_eq_some_iff]
  constructor
  · rintro ⟨other, isRead, fits⟩
    rw [fitting?_eq] at fits
    split at fits
    · next within =>
        cases fits
        exact ⟨isRead, within⟩
    · cases fits
  · rintro ⟨isRead, fits⟩
    exact ⟨value, isRead, by rw [fitting?_eq, if_pos fits]⟩

theorem bind_fitting?_eq_none_iff {read : Option Int} :
    read.bind fitting? = none ↔ ∀ value, read = some value → ¬ Fits value := by
  simp only [Option.eq_none_iff_forall_ne_some, ne_eq, bind_fitting?_eq_some_iff, not_and]

/-- The number of an integer: it counts as an integer if it fits, and else as a double. -/
theorem ofValue_integer {value : Int}
    (inRange : -9223372036854775808 ≤ value ∧ value < 18446744073709551616) :
    ofValue (.number (.integer value inRange)) =
      if Fits value then .integer value else .double (.ofInt value) := by
  by_cases small : value < 9223372036854775808
  · have fits : Fits value := ⟨inRange.1, small⟩
    simp [ofValue, Number.signed?, small, fits]
  · have large : ¬ Fits value := fun fits => small fits.2
    simp [ofValue, Number.signed?, Number.toDouble, small, large]

end Operand

end Filter

namespace Value

open Filter.Operand (Fits)

/-- The text that a value is read from where a number is asked for. -/
def spelling? : Value → Option (List Char)
  | .string text => some text.toList
  | .object host => some host.text.toList
  | _ => none

theorem exists_ofInt {value : Int} (fits : Fits value) :
    ∃ inRange, ofInt value = .number (.integer value inRange) := by
  obtain ⟨lower, upper⟩ := fits
  have inRange : -9223372036854775808 ≤ value ∧ value < 18446744073709551616 := by omega
  exact ⟨inRange, ofInt_eq inRange⟩

def isNumber : Value → Bool
  | .number _ => true
  | _ => false

/--
The integers that values count as: numbers as themselves, texts as the integer
that they spell apart from blanks around it, and all that is no number as zero.
-/
inductive CountsAs : Value → Int → Prop
  | integer {value : Int}
      (inRange : -9223372036854775808 ≤ value ∧ value < 18446744073709551616)
      (fits : Fits value) : CountsAs (.number (.integer value inRange)) value
  | numeral {source : Value} {text : List Char} {value : Int}
      (spelled : source.spelling? = some text)
      (reads : Decimal.readInteger? (Text.trim text) = some value) (fits : Fits value) :
      CountsAs source value
  | word {source : Value} {text : List Char} (spelled : source.spelling? = some text)
      (noInteger : ∀ value, Decimal.readInteger? (Text.trim text) = some value → ¬ Fits value)
      (noDouble : Double.read? .double (Text.trim text) = none) : CountsAs source 0
  | other {source : Value} (unspelled : source.spelling? = none) (noNumber : ¬ source.isNumber) :
      CountsAs source 0

end Value

namespace Filter

namespace Operand

/-- A missing argument counts as nil. -/
theorem ofArgument_eq (argument : Option Value) :
    ofArgument argument = ofValue (argument.getD .nil) := by
  cases argument <;> rfl

theorem ofText_eq_integer_iff {text : List Char} {value : Int} :
    ofText text = .integer value ↔
      Decimal.readInteger? (Text.trim text) = some value ∧ Fits value ∨
        (∀ other, Decimal.readInteger? (Text.trim text) = some other → ¬ Fits other) ∧
          Double.read? .double (Text.trim text) = none ∧ value = 0 := by
  rw [← bind_fitting?_eq_some_iff, ← bind_fitting?_eq_none_iff]
  simp only [ofText]
  cases (Decimal.readInteger? (Text.trim text)).bind fitting? with
  | some other => simp
  | none =>
      cases Double.read? .double (Text.trim text) with
      | some double => simp
      | none => simp [eq_comm]

theorem ofValue_eq_of_spelling? {source : Value} {text : List Char}
    (spelled : source.spelling? = some text) : ofValue source = ofText text := by
  cases source with
  | string other =>
      cases spelled
      rfl
  | object host =>
      cases spelled
      rfl
  | _ => cases spelled

theorem ofValue_eq_zero {source : Value} (unspelled : source.spelling? = none)
    (noNumber : ¬ source.isNumber) : ofValue source = .integer 0 := by
  cases source with
  | number value => exact absurd rfl noNumber
  | string text => cases unspelled
  | object host => cases unspelled
  | _ => rfl

theorem ofValue_of_countsAs {source : Value} {value : Int} (counts : source.CountsAs value) :
    ofValue source = .integer value := by
  cases counts with
  | integer inRange fits => rw [ofValue_integer, if_pos fits]
  | numeral spelled reads fits =>
      rw [ofValue_eq_of_spelling? spelled]
      exact ofText_eq_integer_iff.2 (.inl ⟨reads, fits⟩)
  | word spelled noInteger noDouble =>
      rw [ofValue_eq_of_spelling? spelled]
      exact ofText_eq_integer_iff.2 (.inr ⟨noInteger, noDouble, rfl⟩)
  | other unspelled noNumber => exact ofValue_eq_zero unspelled noNumber

/-- What counts as an integer fits. -/
theorem fits_of_countsAs {source : Value} {value : Int} (counts : source.CountsAs value) :
    Fits value := by
  cases counts with
  | integer inRange fits => exact fits
  | numeral spelled reads fits => exact fits
  | word | other => decide

end Operand

end Filter

end Stencil
