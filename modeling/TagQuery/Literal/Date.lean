import TagQuery.Calendar.Shift
import TagQuery.Calendar.TagDate
import TagQuery.Literal.Error
import TagQuery.Number.Whole

/-!
# Date literals

A date in a query is a date of the calendar, or is given relative to today: `today`,
`today -1 years`, `today +2 weeks`. A relative date stays relative when the query is compiled, and
is resolved against the day that the query is asked for.

A comparison has to be read as one of dates or of numbers before its literal is parsed. The start
of the literal decides: `today`, or four digits and a hyphen.

Dates are resolved in words, after the amount has been brought into a range that covers the whole
calendar. That range keeps every step within its word (`resolve?_relative`), so a relative date
always denotes a date.
-/

namespace TagQuery

/-- The unit of a shift relative to today. -/
inductive DateUnit where
  | days
  | weeks
  | months
  | years
  deriving DecidableEq, Repr

namespace DateUnit

/-- The unit that a word names, in the singular or the plural. -/
def ofWord? : String → Option DateUnit
  | "day" | "days" => some days
  | "week" | "weeks" => some weeks
  | "month" | "months" => some months
  | "year" | "years" => some years
  | _ => none

/-- The largest amount of a unit that a literal may give: twenty thousand years, the length of the
calendar, counted in units from above. -/
def limit : DateUnit → Nat
  | days => 20000 * 366
  | weeks => 20000 * 53
  | months => 20000 * 12
  | years => 20000

end DateUnit

/-- A date as a query gives it. -/
inductive DateLiteral where
  | absolute (date : Date)
  | relative (amount : Int) (unit : DateUnit)
  deriving DecidableEq, Repr

namespace DateLiteral

/-- The rest of a text after the word `today`. -/
def afterToday? : List Char → Option (List Char)
  | 't' :: 'o' :: 'd' :: 'a' :: 'y' :: rest => some rest
  | _ => none

/-- Whether a literal, blanks around it aside, starts with `today` or with four digits and a
hyphen. -/
def looksLikeDate (literal : String) : Bool :=
  match Text.trim literal.toList with
  | 't' :: 'o' :: 'd' :: 'a' :: 'y' :: _ => true
  | a :: b :: c :: d :: '-' :: _ =>
    Text.isDigit a && Text.isDigit b && Text.isDigit c && Text.isDigit d
  | _ => false

/-- The amount of a shift: a whole number, before which one more plus sign may stand. -/
def amount? : List Char → Option Int
  | '+' :: rest => Whole.ofChars? rest
  | cs => Whole.ofChars? cs

/-- The relative date that the words after `today` write. -/
def ofWords : List (List Char) → Except RelativeDateFault DateLiteral
  | [] => .ok (.relative 0 .days)
  | amount :: rest =>
    match amount? amount with
    | none => .error .offsetNotWhole
    | some n =>
      match rest with
      | [] => .error .missingUnit
      | unit :: trailing =>
        match DateUnit.ofWord? (.ofList unit) with
        | none => .error .unknownUnit
        | some unit =>
          if !trailing.isEmpty then .error .trailingText
          else if unit.limit < n.natAbs then .error .offsetOutOfRange
          else .ok (.relative n unit)

/-- The date that a literal writes. -/
def parse (literal : String) : Except LiteralError DateLiteral :=
  match afterToday? (Text.trim literal.toList) with
  | none =>
    match Date.ofTagValue? literal with
    | some date => .ok (.absolute date)
    | none => .error (.invalidDate literal)
  | some rest => (ofWords (Text.words rest)).mapError (.invalidRelativeDate literal)

/-- An amount brought into the range that its unit allows. -/
def clampAmount (unit : DateUnit) (amount : Int) : Int :=
  max (-(unit.limit : Int)) (min unit.limit amount)

/-- The date some units later, or earlier for a negative amount. -/
def shift (today : Date) (amount : Int) : DateUnit → Date
  | .days => today.addDays amount
  | .weeks => today.addDays (7 * amount)
  | .months => today.addMonths amount
  | .years => today.addMonths (12 * amount)

/-! ## Resolving in words -/

/-- An amount brought into the range that its unit allows, as a word. -/
def clampAmount? (unit : DateUnit) (amount : Int) : Option Int64 := do
  let limit ← Word.ofInt? unit.limit
  let least ← Word.neg? limit
  Word.ofInt? (max least.toInt (min limit.toInt amount))

/-- The date some units later, unless a step of the computation leaves its word. -/
def shift? (today : Date) (amount : Int64) : DateUnit → Option Date
  | .days => today.addDays? amount
  | .weeks => today.addWeeks? amount
  | .months => today.addMonths? amount
  | .years => do today.addMonths? (← Word.mul? amount 12)

/-- The date that a literal denotes on a given day, unless a step of the computation leaves its
word. -/
def resolve? (today : Date) : DateLiteral → Option Date
  | absolute date => some date
  | relative amount unit => do shift? today (← clampAmount? unit amount) unit

theorem natAbs_clampAmount_le (unit : DateUnit) (amount : Int) :
    (clampAmount unit amount).natAbs ≤ unit.limit := by
  rw [clampAmount]
  omega

theorem exists_clampAmount? (unit : DateUnit) (amount : Int) :
    ∃ w, clampAmount? unit amount = some w ∧ w.toInt = clampAmount unit amount := by
  have hlimit : unit.limit ≤ 10000000 := by cases unit <;> decide
  have hle := natAbs_clampAmount_le unit amount
  obtain ⟨limit, hl, hvalue⟩ : ∃ w, Word.ofInt? unit.limit = some w ∧ w.toInt = unit.limit :=
    Word.exists_ofInt? rfl (by omega) (by omega)
  obtain ⟨least, hm, hleast⟩ : ∃ w, Word.neg? limit = some w ∧ w.toInt = -(unit.limit : Int) :=
    Word.exists_ofInt? (by rw [hvalue]) (by omega) (by omega)
  rw [clampAmount?, hl, Option.bind_eq_bind, Option.bind_some, hm, Option.bind_some, hleast, hvalue]
  exact Word.exists_ofInt? rfl (by omega) (by omega)

/-- **No step leaves its word**, and the date is that of the shift in whole numbers. -/
theorem resolve?_relative (today : Date) (amount : Int) (unit : DateUnit) :
    resolve? today (relative amount unit) = some (shift today (clampAmount unit amount) unit) := by
  obtain ⟨w, hw, hvalue⟩ := exists_clampAmount? unit amount
  have hle := natAbs_clampAmount_le unit amount
  have hlimit : unit.limit ≤ 10000000 := by cases unit <;> decide
  rw [resolve?, hw, Option.bind_eq_bind, Option.bind_some, ← hvalue]
  -- all limits are far below what a word of seconds or months can hold
  cases unit with
  | days => exact today.addDays?_eq (by omega) (by omega)
  | weeks => exact today.addWeeks?_eq (by omega) (by omega)
  | months => exact today.addMonths?_eq w
  | years =>
    obtain ⟨months, hm, hmonths⟩ :
        ∃ v, Word.mul? w 12 = some v ∧ v.toInt = 12 * w.toInt :=
      Word.exists_ofInt? (Int.mul_comm _ _) (by omega) (by omega)
    rw [shift?, hm, Option.bind_eq_bind, Option.bind_some, today.addMonths?_eq, hmonths, shift]

theorem isSome_resolve? (today : Date) (l : DateLiteral) : (l.resolve? today).isSome := by
  cases l with
  | absolute => rfl
  | relative amount unit => rw [resolve?_relative, Option.isSome_some]

/-- The date that a literal denotes on a given day. -/
def resolve (today : Date) (l : DateLiteral) : Date :=
  (l.resolve? today).get (isSome_resolve? today l)

end DateLiteral

end TagQuery
