import TagQuery.Calendar.Shift
import TagQuery.Text.Utf8

/-!
# Time stamps

The moment of an edit: a date and a time of day, to the nanosecond, as read off a clock that runs
some minutes ahead of universal time or behind it. The date of a stamp is the date on that clock.

A stamp is written as `2021-05-17T08:30:00.25+02:00`, with `Z` for a clock on universal time; this
is the profile of RFC 3339, which has no years before 0. Reading allows more than writing produces:
any character of ASCII between date and time, small letters, and fractions of any length, of which
nine digits count. A second numbered 60 is taken for the end of the second before it, and only where
leap seconds are put: in the last minute of a month, in universal time.
-/

namespace TagQuery

/-- A moment on a clock. The offset of the clock is a number of whole minutes below a day, as in
every stamp that was read. Stamps put together from their parts, whose offset may have seconds or
go beyond 23 hours and 59 minutes, are left out. -/
structure Stamp where
  date : Date
  hour : Fin 24
  minute : Fin 60
  second : Fin 60
  nanosecond : Fin 1000000000
  /-- The minutes by which the clock is ahead of universal time. -/
  offset : Int
  natAbs_offset_lt : offset.natAbs < 1440
  deriving DecidableEq

namespace Stamp

/-- The minute in universal time, counted through all days. -/
def universalMinute (date : Date) (hour : Fin 24) (minute : Fin 60) (offset : Int) : Int :=
  1440 * date.dayNumber + 60 * hour + minute - offset

/-- The nanosecond in universal time, counted through all days. -/
def instant (s : Stamp) : Int :=
  (60 * universalMinute s.date s.hour s.minute s.offset + s.second) * 1000000000 + s.nanosecond

/-- Whether two stamps mark one moment, be it on different clocks. -/
def sameInstant (s t : Stamp) : Bool := s.instant == t.instant

/-! ## Reading -/

/-- A number as an element of a range. -/
def inRange? (bound n : Nat) : Option (Fin bound) := if h : n < bound then some ⟨n, h⟩ else none

/-- The rest of a text after a given character. -/
def skip? (c : Char) : List Char → Option (List Char)
  | d :: cs => if d = c then some cs else none
  | [] => none

/-- The rest of a text after one character of ASCII. -/
def skipAscii? : List Char → Option (List Char)
  | c :: cs => if c.toNat < 128 then some cs else none
  | [] => none

/-- The nanoseconds that the digits of a fraction write; digits after the ninth do not count. -/
def fractionOfDigits (digits : List Char) : Nat :=
  Text.ofDigits (digits.take 9) * Nat.pow 10 (9 - (digits.take 9).length)

/-- An optional fraction of a second, in nanoseconds. -/
def takeFraction? : List Char → Option (Fin 1000000000 × List Char)
  | '.' :: cs => do
    let digits := cs.takeWhile Text.isDigit
    if digits.isEmpty then none
    else return (← inRange? _ (fractionOfDigits digits), cs.dropWhile Text.isDigit)
  | cs => some (0, cs)

/-- The minutes of an offset from universal time, which ends a stamp. -/
def offsetMinutes? : List Char → Option Int
  | ['Z'] | ['z'] => some 0
  | sign :: cs => do
    let (hours, cs) ← Text.takeDigits 2 cs
    let (minutes, cs) ← Text.takeDigits 2 (← skip? ':' cs)
    if hours < 24 ∧ minutes < 60 ∧ cs.isEmpty then
      if sign = '+' then some (60 * hours + minutes)
      else if sign = '-' then some (-(60 * hours + minutes : Nat))
      else none
    else none
  | [] => none

/-- Whether a minute of universal time is the last one of a month. -/
def isLastMinuteOfMonth (minute : Int) : Bool :=
  minute % 1440 == 1439 &&
    match Date.ofDayNumber? (minute / 1440) with
    | some d => d.day == daysInMonth d.year d.month
    | none => false

/-- The second and the nanosecond of a second that may be numbered 60. -/
def settleSecond? (universalMinute : Int) (second : Nat) (nanosecond : Fin 1000000000) :
    Option (Fin 60 × Fin 1000000000) :=
  if second = 60 then
    if isLastMinuteOfMonth universalMinute then some (59, 999999999) else none
  else (inRange? 60 second).map (·, nanosecond)

/-- The stamp that a text writes, given its characters. -/
def ofChars? (cs : List Char) : Option Stamp := do
  let (year, cs) ← Text.takeDigits 4 cs
  let (month, cs) ← Text.takeDigits 2 (← skip? '-' cs)
  let (day, cs) ← Text.takeDigits 2 (← skip? '-' cs)
  let (hour, cs) ← Text.takeDigits 2 (← skipAscii? cs)
  let (minute, cs) ← Text.takeDigits 2 (← skip? ':' cs)
  let (second, cs) ← Text.takeDigits 2 (← skip? ':' cs)
  let (nanosecond, cs) ← takeFraction? cs
  let offset ← offsetMinutes? cs
  let date ← Date.of? year month day
  let hour ← inRange? 24 hour
  let minute ← inRange? 60 minute
  let (second, nanosecond) ←
    settleSecond? (universalMinute date hour minute offset) second nanosecond
  if h : offset.natAbs < 1440 then return ⟨date, hour, minute, second, nanosecond, offset, h⟩
  else none

/-- The stamp that a text writes. -/
def ofText? (text : String) : Option Stamp := ofChars? text.toList

/-! ## Writing -/

/-- Whether a stamp has a written form: a year has four digits and no sign. -/
def isWritable (s : Stamp) : Bool := 0 ≤ s.date.year

/-- The fraction of a second, without zeros at its end; nothing for a whole second. -/
def fractionChars (nanosecond : Nat) : List Char :=
  if nanosecond = 0 then []
  else '.' :: ((Text.padDigits 9 nanosecond).reverse.dropWhile (· == '0')).reverse

/-- The offset from universal time. -/
def offsetChars (offset : Int) : List Char :=
  if offset = 0 then ['Z']
  else (if offset < 0 then '-' else '+') :: Text.padDigits 2 (offset.natAbs / 60) ++
    ':' :: Text.padDigits 2 (offset.natAbs % 60)

/-- A stamp as it is written, as characters. -/
def toChars (s : Stamp) : List Char :=
  s.date.toText.toList ++ 'T' :: Text.padDigits 2 s.hour ++ ':' :: Text.padDigits 2 s.minute ++
    ':' :: Text.padDigits 2 s.second ++ fractionChars s.nanosecond ++ offsetChars s.offset

/-- A stamp as it is written. -/
def toText (s : Stamp) : String := .ofList s.toChars

end Stamp

end TagQuery
