import TagQuery.Text.Digits

/-!
# Dates

Dates of the proleptic Gregorian calendar, from the first day of the year -9999 to the last day of
the year 9999. The year 0 is a leap year, as every year is whose number is divisible by 4 but not
by 100, or by 400.

Besides its year, month and day a date has a *day number*, which counts days without gaps through
the whole calendar and beyond. Dates are ordered by their day numbers, and shifting a date by days
is addition on them; `ofDayNumber?` leads back, and fails outside the calendar.
-/

namespace TagQuery

/-- A year of 366 days. -/
def isLeapYear (year : Int) : Bool :=
  year % 4 == 0 && (year % 100 != 0 || year % 400 == 0)

/-- The number of days of a month, counting months from 1; no day for any other number. -/
def daysInMonth (year : Int) : Nat → Nat
  | 1 | 3 | 5 | 7 | 8 | 10 | 12 => 31
  | 4 | 6 | 9 | 11 => 30
  | 2 => if isLeapYear year then 29 else 28
  | _ => 0

/-- The number of days of a year before a month. -/
def daysBeforeMonth (year : Int) : Nat → Nat
  | 0 => 0
  | month + 1 => daysBeforeMonth year month + daysInMonth year month

/-- The number of leap years from some fixed year up to the year before `year`. -/
def leapYearsBefore (year : Int) : Int :=
  (year - 1) / 4 - (year - 1) / 100 + (year - 1) / 400

/-- The day number of the first day of a year. -/
def firstDayOfYear (year : Int) : Int := 365 * year + leapYearsBefore year + 1

/-- The year that a day number falls into. -/
def yearOfDay (n : Int) : Int :=
  let estimate := 400 * n / 146097
  if firstDayOfYear (estimate + 1) ≤ n then estimate + 1
  else if firstDayOfYear estimate ≤ n then estimate
  else estimate - 1

/-- Whether year, month and day name a day of the calendar. -/
def IsDate (year : Int) (month day : Nat) : Prop :=
  (-9999 ≤ year ∧ year ≤ 9999) ∧ 1 ≤ day ∧ day ≤ daysInMonth year month

instance (year : Int) (month day : Nat) : Decidable (IsDate year month day) := by
  unfold IsDate; infer_instance

/-- A day of the calendar. -/
@[ext]
structure Date where
  year : Int
  month : Nat
  day : Nat
  isDate : IsDate year month day
  deriving DecidableEq

namespace Date

/-- The date with a year, month and day, if there is one. -/
def of? (year : Int) (month day : Nat) : Option Date :=
  if h : IsDate year month day then some ⟨year, month, day, h⟩ else none

/-- The first day of the calendar. -/
def first : Date := ⟨-9999, 1, 1, by decide⟩

/-- The last day of the calendar. -/
def last : Date := ⟨9999, 12, 31, by decide⟩

instance : Inhabited Date := ⟨first⟩

/-! ## Day numbers -/

/-- The position of a date among all days. -/
def dayNumber (d : Date) : Int :=
  firstDayOfYear d.year + daysBeforeMonth d.year d.month + d.day - 1

instance : LT Date := ⟨fun a b ↦ a.dayNumber < b.dayNumber⟩

instance : LE Date := ⟨fun a b ↦ a.dayNumber ≤ b.dayNumber⟩

instance : DecidableLT Date := fun a b ↦ inferInstanceAs (Decidable (a.dayNumber < b.dayNumber))

instance : DecidableLE Date := fun a b ↦ inferInstanceAs (Decidable (a.dayNumber ≤ b.dayNumber))

theorem lt_def {a b : Date} : a < b ↔ a.dayNumber < b.dayNumber := Iff.rfl

theorem le_def {a b : Date} : a ≤ b ↔ a.dayNumber ≤ b.dayNumber := Iff.rfl

/-- The later of two dates. -/
def latest (a b : Date) : Date := if a < b then b else a

/-- The month and the day of the month that lie `n` days into a year, when the year's months from
the given ones on remain. -/
def monthAndDay (year : Int) : List Nat → Nat → Option (Nat × Nat)
  | [], _ => none
  | month :: months, n =>
    if n < daysInMonth year month then some (month, n + 1)
    else monthAndDay year months (n - daysInMonth year month)

/-- The date with a day number, if it lies in the calendar. -/
def ofDayNumber? (n : Int) : Option Date :=
  let year := yearOfDay n
  (monthAndDay year [1, 2, 3, 4, 5, 6, 7, 8, 9, 10, 11, 12] (n - firstDayOfYear year).toNat).bind
    fun (month, day) ↦ of? year month day

/-! ## Text -/

/-- A date as year, month and day with hyphens, the year in at least four digits. -/
def toText (d : Date) : String :=
  .ofList <| (if d.year < 0 then ['-'] else []) ++ Text.padDigits 4 d.year.natAbs ++
    '-' :: Text.padDigits 2 d.month ++ '-' :: Text.padDigits 2 d.day

instance : ToString Date := ⟨toText⟩

instance : Repr Date := ⟨fun d _ ↦ d.toText⟩

end Date

end TagQuery
