import TagQuery.Json.Basic
import TagQuery.Number.Binary64

/-!
# Numbers of JSON in floating point

A number is read fast rather than to the last bit. Its significand is gathered in a word of 64 bits,
digits that the word cannot hold count only for their place, and the result is scaled by powers of
ten in floating-point arithmetic, each step of which rounds. Short numbers come out as the nearest
there is; long ones may be off in the last bits. What would be infinite is no number.
-/

namespace TagQuery.Json

/-- The significand that digits extend as far as a word of 64 bits can hold it, and the digits left
over. -/
def gather (significand : Nat) : List Char → Nat × List Char
  | [] => (significand, [])
  | c :: cs =>
    let longer := 10 * significand + Text.digitValue c
    if UInt64.size ≤ longer then (significand, c :: cs) else gather longer cs

/-- The largest power of ten that is a floating-point number has this exponent. -/
def maxExponent : Nat := 308

/-- A power of ten. -/
def powerOfTen (exponent : Nat) : Float := Binary64.ofDecimal false 1 exponent

/-- A number scaled by a power of ten, unless that makes it infinite. -/
def scale? (x : Float) (exponent : Int) : Option Float :=
  if exponent.natAbs ≤ maxExponent then
    if exponent < 0 then some (x / powerOfTen exponent.natAbs)
    else
      let y := x * powerOfTen exponent.natAbs
      if y.isInf then none else some y
  else if x == 0 then some x
  else if 0 < exponent then none
  else scale? (x / powerOfTen maxExponent) (exponent + maxExponent)
termination_by exponent.natAbs
decreasing_by simp only [maxExponent] at *; omega

/-- The exponent that follows the digits of a number, or zero. -/
def exponentOf : List Char → Int
  | 'e' :: '-' :: digits | 'E' :: '-' :: digits => -(Text.ofDigits digits : Int)
  | 'e' :: '+' :: digits | 'E' :: '+' :: digits => Text.ofDigits digits
  | 'e' :: digits | 'E' :: digits => Text.ofDigits digits
  | _ => 0

/-- The magnitude of a significand with an exponent as written and the places by which the point is
off. An exponent that does not fit into a word of 32 bits leaves zero or nothing. -/
def magnitude? (significand : Nat) (exponent places : Int) : Option Float :=
  if Int32.maxValue.toInt < exponent.natAbs then
    if significand = 0 ∨ exponent < 0 then some 0 else none
  else scale? (Binary64.ofDecimal false significand 0) (exponent + places)

/-- The floating-point number for a literal. -/
def floatOfLiteral? (literal : List Char) : Option Float :=
  let (negative, cs) := match literal with
    | '-' :: cs => (true, cs)
    | cs => (false, cs)
  let (significand, skipped) := gather 0 (cs.takeWhile Text.isDigit)
  let (fraction, rest) := match cs.dropWhile Text.isDigit with
    | '.' :: cs => (cs.takeWhile Text.isDigit, cs.dropWhile Text.isDigit)
    | rest => ([], rest)
  let (significand, dropped) := gather significand fraction
  let places : Int := skipped.length - (fraction.length - dropped.length : Nat)
  (magnitude? significand (exponentOf rest) places).map fun x ↦ if negative then -x else x

/-- The floating-point number for a number. -/
def float? : Json → Option Float
  | number literal => floatOfLiteral? literal
  | _ => none

end TagQuery.Json
