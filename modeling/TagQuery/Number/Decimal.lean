import TagQuery.Number.Binary64
import TagQuery.Text.Digits

/-!
# Decimal numbers

A decimal number is an optional sign, digits, and an optional fraction of a point and at least one
digit; the digits before the point may be missing if there is a fraction. A text is read as the
longest decimal number that it starts with, and what follows. A point without digits after it is
not part of the number, so `7.` is the number `7` followed by a point.
-/

namespace TagQuery

/-- A decimal number: `± significand / 10 ^ places`. -/
structure Decimal where
  negative : Bool
  significand : Nat
  places : Nat
  deriving DecidableEq, Repr

namespace Decimal

/-- The floating-point number nearest to a decimal number. -/
def toFloat (d : Decimal) : Float := Binary64.ofDecimal d.negative d.significand (-d.places)

/-- The sign that a text starts with, and the rest. -/
def takeSign : List Char → Bool × List Char
  | '-' :: cs => (true, cs)
  | '+' :: cs => (false, cs)
  | cs => (false, cs)

/-- The fraction that a text starts with, a point and at least one digit, and the rest. -/
def takeFraction : List Char → List Char × List Char
  | '.' :: cs =>
    if (cs.takeWhile Text.isDigit).isEmpty then ([], '.' :: cs)
    else (cs.takeWhile Text.isDigit, cs.dropWhile Text.isDigit)
  | cs => ([], cs)

/-- The longest decimal number that a text starts with, and the rest. -/
def takePrefix? (cs : List Char) : Option (Decimal × List Char) :=
  let (negative, cs) := takeSign cs
  let whole := cs.takeWhile Text.isDigit
  let (fraction, rest) := takeFraction (cs.dropWhile Text.isDigit)
  if whole.isEmpty && fraction.isEmpty then none
  else some (⟨negative, Text.ofDigits (whole ++ fraction), fraction.length⟩, rest)

section

variable {cs body whole fraction rest : List Char} {negative : Bool}
  (hsign : takeSign cs = (negative, body)) (hwhole : body.takeWhile Text.isDigit = whole)
  (hfraction : takeFraction (body.dropWhile Text.isDigit) = (fraction, rest))
include hsign hwhole hfraction

theorem takePrefix?_eq_some (hne : whole ≠ [] ∨ fraction ≠ []) :
    takePrefix? cs =
      some (⟨negative, Text.ofDigits (whole ++ fraction), fraction.length⟩, rest) := by
  rw [takePrefix?, hsign]
  dsimp only
  rw [hwhole, hfraction, if_neg]
  simp only [Bool.and_eq_true, List.isEmpty_iff]
  exact fun hnil ↦ hne.elim (· hnil.1) (· hnil.2)

theorem takePrefix?_eq_none (hnil : whole = []) (hnil' : fraction = []) :
    takePrefix? cs = none := by
  rw [takePrefix?, hsign]
  dsimp only
  rw [hwhole, hfraction, hnil, hnil']
  rfl

end

end Decimal

end TagQuery
