import TagQuery.Number.Scientific
import TagQuery.Number.Whole
import TagQuery.Settings.Setting
import TagQuery.Settings.Toml.Moment

/-!
# Scalars in TOML

What stands without quotes is a truth value, a number or a moment. Low lines may stand between the
digits of a number. A whole number fits into a signed word of 64 bits; without a sign it may be
written in hexadecimal, octal or binary. A floating-point number has digits on both sides of its
point, and only its name makes it infinite.
-/

namespace TagQuery.Setting.Toml

/-! ## Numbers -/

/-- The digits of a number without its low lines, each of which stands between digits. -/
def dropLowLines? : List Char → Option (List Char)
  | [] => some []
  | [c] => if c = '_' then none else some [c]
  | c :: '_' :: cs =>
    if c = '_' || cs.isEmpty then none else (dropLowLines? cs).map (c :: ·)
  | c :: cs => if c = '_' then none else (dropLowLines? cs).map (c :: ·)

/-- The digits that a text is, low lines aside. -/
def digits? (cs : List Char) : Option (List Char) :=
  (dropLowLines? cs).filter fun digits ↦ !digits.isEmpty && digits.all Text.isDigit

/-- The digits that a text is, low lines aside, without a leading zero. -/
def wholeDigits? (cs : List Char) : Option (List Char) :=
  (digits? cs).filter fun digits ↦ digits.head? != some '0' || digits.length = 1

/-- The whole number in a base that a text writes. -/
def inBase? (base : Nat) (cs : List Char) : Option Int := do
  Whole.ofInt? (← Text.ofBase? base (← dropLowLines? cs))

/-- The whole number that a text writes. -/
def whole? : List Char → Option Int
  | '0' :: 'x' :: cs => inBase? 16 cs
  | '0' :: 'o' :: cs => inBase? 8 cs
  | '0' :: 'b' :: cs => inBase? 2 cs
  | cs => do
    let (negative, cs) := Decimal.takeSign cs
    let n := Text.ofDigits (← wholeDigits? cs)
    Whole.ofInt? (if negative then -n else n)

/-- The digits of the fraction at the front of a text, if there is one, and the rest. -/
def places? : List Char → Option (List Char × List Char)
  | '.' :: cs =>
    let word := cs.takeWhile fun c ↦ c != 'e' && c != 'E'
    (digits? word).map (·, cs.drop word.length)
  | cs => some ([], cs)

/-- The exponent that a text is, or zero if it is empty. -/
def exponent? : List Char → Option Int
  | [] => some 0
  | _ :: cs => do
    let (negative, cs) := Decimal.takeSign cs
    let n := Text.ofDigits (← digits? cs)
    return if negative then -n else n

/-- The finite floating-point number that a text writes, with a fraction or an exponent. -/
def decimal? (negative : Bool) (cs : List Char) : Option Float := do
  let word := cs.takeWhile fun c ↦ c != '.' && c != 'e' && c != 'E'
  if word.length = cs.length then none
  let whole ← wholeDigits? word
  let (places, cs) ← places? (cs.drop word.length)
  let exponent ← exponent? cs
  let x := Binary64.ofDecimal negative (Text.ofDigits (whole ++ places)) (exponent - places.length)
  if x.isInf then none else return x

/-- The floating-point number that a text writes or names. -/
def float? (cs : List Char) : Option Float :=
  let (negative, cs) := Decimal.takeSign cs
  match String.ofList cs with
  | "inf" => some (Binary64.withSign negative Binary64.infinityBits)
  | "nan" => some (Binary64.withSign negative Scientific.nanBits)
  | _ => decimal? negative cs

/-! ## Words -/

/-- A character of a scalar without quotes. -/
def isWordPart (c : Char) : Bool := c.isAlphanum || ['_', '+', '-', '.', ':'].contains c

/-- The scalar without quotes at the front of a text, and the rest. A blank between a date and a
time belongs to it. -/
def takeWord (cs : List Char) : List Char × List Char :=
  let word := cs.takeWhile isWordPart
  match cs.drop word.length with
  | ' ' :: c :: rest =>
    if Text.isDigit c && (date? word).any (·.2.isEmpty) then
      let time := (c :: rest).takeWhile isWordPart
      (word ++ ' ' :: time, (c :: rest).drop time.length)
    else (word, ' ' :: c :: rest)
  | rest => (word, rest)

/-- The value of a scalar without quotes. -/
def ofWord? (cs : List Char) : Option Setting :=
  match String.ofList cs with
  | "true" => some (bool true)
  | "false" => some (bool false)
  | _ =>
    match moment? cs with
    | some shown => some (text (.ofList shown))
    | none => ((whole? cs).map int).or ((float? cs).map float)

end TagQuery.Setting.Toml
