import TagQuery.Number.Binary64
import TagQuery.Text.Digits

/-!
# Shortest decimal text

A floating-point number is shown by the fewest digits that read back as the same number; of several
texts with as few digits the nearest one is taken. The search goes through the numbers of digits
from one on. For each it looks at the two neighbours of the number on the grid of decimals with so
many digits, in exact arithmetic; seventeen digits always suffice.

The text is positional whatever the size of the number, and a whole number has no point.
-/

namespace TagQuery.Shortest

/-- A positive fraction, numerator and denominator. -/
abbrev Fraction := Nat × Nat

/-- The magnitude of a finite number as a fraction, by the bits of its magnitude. -/
def fractionOfBits (bits : Nat) : Fraction :=
  let scale := bits / Nat.pow 2 52
  let m := if scale = 0 then bits else Nat.pow 2 52 + bits % Nat.pow 2 52
  let exponent : Int := (max scale 1 : Nat) - 1075
  if 0 ≤ exponent then (m * Nat.pow 2 exponent.toNat, 1) else (m, Nat.pow 2 (-exponent).toNat)

/-- A fraction divided by a power of ten. -/
def scaleDown (v : Fraction) (k : Int) : Fraction :=
  if 0 ≤ k then (v.1, v.2 * Nat.pow 10 k.toNat) else (v.1 * Nat.pow 10 (-k).toNat, v.2)

/-- The exponent of the leading decimal digit of a fraction, from an estimate by binary digits that
is at most one too small or too large. -/
def leadingExponent (v : Fraction) : Int :=
  let estimate : Int := ((Nat.log2 v.1 : Int) - Nat.log2 v.2) * 30103 / 100000
  let reaches (k : Int) : Bool := let (a, b) := scaleDown v k; b ≤ a
  if reaches (estimate + 1) then estimate + 1
  else if reaches estimate then estimate
  else estimate - 1

/-- The decimal with `n` digits nearest to a number, as digits and exponent, if it reads back as the
number's bits. -/
def withDigits? (bits : Nat) (n : Nat) : Option (Nat × Int) :=
  let v := fractionOfBits bits
  let k := leadingExponent v - n + 1
  let (a, b) := scaleDown v k
  let below := a / b
  let isBelow := Binary64.decimalBits below k = bits
  let isAbove := Binary64.decimalBits (below + 1) k = bits
  if isBelow ∧ (¬ isAbove ∨ 2 * (a % b) ≤ b) then some (below, k)
  else if isAbove then some (below + 1, k)
  else none

/-- The shortest digits of a positive number and the exponent of the last of them. -/
def digits (bits : Nat) : Nat × Int :=
  ((List.range 17).findSome? fun n ↦ withDigits? bits (n + 1)).getD (0, 0)

/-- Digits with an exponent, written positionally. -/
def positional (significand : Nat) (exponent : Int) : List Char :=
  if 0 ≤ exponent then Nat.toDigits 10 (significand * Nat.pow 10 exponent.toNat)
  else
    let places := (-exponent).toNat
    let cs := Text.padDigits (places + 1) significand
    let fraction := ((cs.drop (cs.length - places)).reverse.dropWhile (· == '0')).reverse
    cs.take (cs.length - places) ++ if fraction.isEmpty then [] else '.' :: fraction

/-- The text of a number. -/
def text (x : Float) : String :=
  if x.isNaN then "NaN"
  else
    let bits := x.toBits.toNat
    let magnitude := bits % Nat.pow 2 63
    let sign := if Nat.pow 2 63 ≤ bits then ['-'] else []
    .ofList <| sign ++
      if magnitude = Binary64.infinityBits then ['i', 'n', 'f']
      else if magnitude = 0 then ['0']
      else positional (digits magnitude).1 (digits magnitude).2

end TagQuery.Shortest
