import TagQuery.Calendar.Date

/-!
# Dates and times in TOML

A moment is a date, a time, or both with or without an offset. Settings have no use for moments but
to show them, so a moment is read into its usual spelling, with `T` between date and time. Seconds
may be missing, and digits of their fraction after the ninth do not count.
-/

namespace TagQuery.Setting.Toml

/-- A part of a moment at the front of a text, as it is shown, and the rest. -/
abbrev MomentPart := List Char × List Char

/-- A number of two digits up to a bound at the front of a text, as it is shown, and the rest. -/
def twoDigits? (bound : Nat) (cs : List Char) : Option MomentPart := do
  let (n, rest) ← Text.takeDigits 2 cs
  if n ≤ bound then return (Text.padDigits 2 n, rest) else none

/-- The date at the front of a text, and the rest. -/
def date? (cs : List Char) : Option MomentPart := do
  let (year, cs) ← Text.takeDigits 4 cs
  match cs with
  | '-' :: cs =>
    let (month, cs) ← Text.takeDigits 2 cs
    match cs with
    | '-' :: cs =>
      let (day, cs) ← Text.takeDigits 2 cs
      let d ← Date.of? year month day
      return (Text.padDigits 4 year ++ '-' :: Text.padDigits 2 d.month ++
        '-' :: Text.padDigits 2 d.day, cs)
    | _ => none
  | _ => none

/-- The digits of a fraction as they are shown: nine at most, and without zeros at the end but for
the first. -/
def fractionOf (digits : List Char) : List Char :=
  match ((digits.take 9).reverse.dropWhile (· == '0')).reverse with
  | [] => ['0']
  | digits => digits

/-- The fraction of a second at the front of a text, if there is one, and the rest. -/
def fraction? : List Char → Option MomentPart
  | '.' :: cs =>
    let digits := cs.takeWhile Text.isDigit
    if digits.isEmpty then none else some ('.' :: fractionOf digits, cs.drop digits.length)
  | cs => some ([], cs)

/-- The seconds at the front of a text, if there are any, and the rest. -/
def seconds? : List Char → Option MomentPart
  | ':' :: cs => do
    let (second, cs) ← twoDigits? 60 cs
    let (fraction, cs) ← fraction? cs
    return (':' :: second ++ fraction, cs)
  | cs => some ([], cs)

/-- The time at the front of a text, and the rest. -/
def time? (cs : List Char) : Option MomentPart := do
  let (hour, cs) ← twoDigits? 23 cs
  match cs with
  | ':' :: cs =>
    let (minute, cs) ← twoDigits? 59 cs
    let (seconds, cs) ← seconds? cs
    return (hour ++ ':' :: minute ++ seconds, cs)
  | _ => none

/-- The offset that a text is, if it is one. There is no negative zero. -/
def offset? : List Char → Option (List Char)
  | [] => some []
  | ['Z'] | ['z'] => some ['Z']
  | [sign, a, b, ':', c, d] => do
    if sign != '+' && sign != '-' then none
    let (hours, _) ← twoDigits? 23 [a, b]
    let (minutes, _) ← twoDigits? 59 [c, d]
    let zero := (hours ++ minutes).all (· == '0')
    return (if zero then '+' else sign) :: hours ++ ':' :: minutes
  | _ => none

/-- The moment that a text is. -/
def moment? (cs : List Char) : Option (List Char) :=
  match date? cs with
  | none => (time? cs).bind fun (time, rest) ↦ if rest.isEmpty then some time else none
  | some (date, []) => some date
  | some (date, c :: cs) => do
    if c != ' ' && c != 't' && c != 'T' then none
    let (time, rest) ← time? cs
    return date ++ 'T' :: time ++ (← offset? rest)

end TagQuery.Setting.Toml
