/-!
# Dates

The Gregorian calendar, extended to all years.  A date is a number of days
since the first of January 1970; year, month and day are computed from it by
counting eras of 400 years that begin in March, so that a leap day ends its
year.
-/

namespace Stencil

structure Date where
  /-- Days since the first of January 1970. -/
  days : Int
  deriving DecidableEq, Repr

namespace Date

/-- Whether a year has 366 days. -/
def isLeapYear (year : Int) : Bool :=
  year % 4 == 0 && (year % 100 != 0 || year % 400 == 0)

/-- Number of days of a month, counted from one. -/
def monthLength (year : Int) (month : Nat) : Nat :=
  if month = 2 then
    if isLeapYear year then 29 else 28
  else if month = 4 ∨ month = 6 ∨ month = 9 ∨ month = 11 then
    30
  else
    31

/-- The date with a year, a month and a day, both counted from one. -/
def ofCivil (year : Int) (month day : Nat) : Date :=
  let shifted := if month ≤ 2 then year - 1 else year
  let era := shifted / 400
  let yearOfEra := shifted % 400
  let dayOfYear : Nat := (153 * ((month + 9) % 12) + 2) / 5 + (day - 1)
  let dayOfEra := yearOfEra * 365 + yearOfEra / 4 - yearOfEra / 100 + dayOfYear
  ⟨era * 146097 + dayOfEra - 719468⟩

/-- A year of 400, a month and a day, counted from March. -/
structure EraDay where
  era : Int
  yearOfEra : Int
  dayOfYear : Int

def eraDay (date : Date) : EraDay :=
  let shifted := date.days + 719468
  let era := shifted / 146097
  let dayOfEra := shifted % 146097
  let yearOfEra :=
    (dayOfEra - dayOfEra / 1460 + dayOfEra / 36524 - dayOfEra / 146096) / 365
  ⟨era, yearOfEra, dayOfEra - (365 * yearOfEra + yearOfEra / 4 - yearOfEra / 100)⟩

def month (date : Date) : Nat :=
  let fromMarch := ((5 * date.eraDay.dayOfYear + 2) / 153).toNat
  if fromMarch < 10 then fromMarch + 3 else fromMarch - 9

def day (date : Date) : Nat :=
  let dayOfYear := date.eraDay.dayOfYear
  (dayOfYear - (153 * ((5 * dayOfYear + 2) / 153) + 2) / 5 + 1).toNat

def year (date : Date) : Int :=
  let place := date.eraDay
  let fromMarch := place.era * 400 + place.yearOfEra
  if date.month ≤ 2 then fromMarch + 1 else fromMarch

/-- The day of a date in its year, counted from one. -/
def ordinal (date : Date) : Nat :=
  (date.days - (ofCivil date.year 1 1).days).toNat + 1

/-- The day of the week: zero on Sundays. -/
def weekday (date : Date) : Nat :=
  ((date.days + 4) % 7).toNat

/-- The day of the week: zero on Mondays. -/
def weekdayFromMonday (date : Date) : Nat :=
  ((date.days + 3) % 7).toNat

/-- The number of the week in its year, where weeks begin on Sundays. -/
def weekFromSunday (date : Date) : Nat :=
  (date.ordinal + 6 - date.weekday) / 7

/-- The number of the week in its year, where weeks begin on Mondays. -/
def weekFromMonday (date : Date) : Nat :=
  (date.ordinal + 6 - date.weekdayFromMonday) / 7

/-- The Thursday of the week of a date, where weeks begin on Mondays. -/
def thursday (date : Date) : Date :=
  ⟨date.days + 3 - date.weekdayFromMonday⟩

/-- The year to which the week of a date belongs: that of its Thursday. -/
def weekYear (date : Date) : Int :=
  date.thursday.year

/-- The number of the week of a date in the year to which it belongs. -/
def week (date : Date) : Nat :=
  (date.thursday.ordinal + 6) / 7

/-- The quarter of a date, counted from one. -/
def quarter (date : Date) : Nat :=
  (date.month + 2) / 3

def yearInReach (year : Int) : Bool :=
  -262143 ≤ year && year ≤ 262142

/-- The date with a year, a month and a day, if there is one and it is in reach. -/
def ofCivil? (year : Int) (month day : Nat) : Option Date :=
  if yearInReach year ∧ 1 ≤ month ∧ month ≤ 12 ∧ 1 ≤ day ∧ day ≤ monthLength year month then
    some (ofCivil year month day)
  else
    none

end Date

end Stencil
