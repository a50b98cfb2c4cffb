import TagQuery.Number.Decimal

/-!
# Numbers with an exponent

Settings write a floating-point number in decimal, with an exponent if need be; the digits on one
side of the point may be missing. Where any number will do, infinity and the value that is no number
can be named as well.
-/

namespace TagQuery.Scientific

/-- The exponent that ends a number, or zero if there is none. -/
def exponent? : List Char → Option Int
  | [] => some 0
  | 'e' :: '-' :: cs | 'E' :: '-' :: cs => (Text.ofDigits? cs).map fun n ↦ -(n : Int)
  | 'e' :: '+' :: cs | 'E' :: '+' :: cs => (Text.ofDigits? cs).map fun n ↦ (n : Int)
  | 'e' :: cs | 'E' :: cs => (Text.ofDigits? cs).map fun n ↦ (n : Int)
  | _ => none

/-- The number nearest to what a text writes in decimal. -/
def finite? (cs : List Char) : Option Float := do
  let (d, rest) ← Decimal.takePrefix? cs
  let rest := match rest with
    | '.' :: rest => if d.places = 0 then rest else '.' :: rest
    | rest => rest
  return Binary64.ofDecimal d.negative d.significand ((← exponent? rest) - d.places)

/-- The bits of a value that is no number. -/
def nanBits : Nat := 0x7FF8000000000000

/-- The bits that a name stands for, whatever its case. -/
def namedBits? (cs : List Char) : Option Nat :=
  match String.ofList (cs.map Char.toLower) with
  | "inf" | "infinity" => some Binary64.infinityBits
  | "nan" => some nanBits
  | _ => none

/-- The number that a text writes in decimal or names. -/
def number? (cs : List Char) : Option Float :=
  let (negative, name) := Decimal.takeSign cs
  match namedBits? name with
  | some bits => some (Binary64.withSign negative bits)
  | none => finite? cs

end TagQuery.Scientific
