/-!
# Digits

Decimal and hexadecimal digits of ASCII, and the numbers that runs of them write. Digits of other
scripts are never digits here: every format that this library reads counts in ASCII alone.
-/

namespace TagQuery.Text

/-- An ASCII decimal digit. -/
def isDigit (c : Char) : Bool := '0' ≤ c && c ≤ '9'

/-- The value of a decimal digit. -/
def digitValue (c : Char) : Nat := c.toNat - '0'.toNat

/-- The number that a run of decimal digits writes, the first digit being the most significant. -/
def ofDigits (cs : List Char) : Nat := cs.foldl (fun n c ↦ 10 * n + digitValue c) 0

/-- The number written by a text of decimal digits alone, at least one of them. -/
def ofDigits? (cs : List Char) : Option Nat :=
  if !cs.isEmpty && cs.all isDigit then some (ofDigits cs) else none

/-- The value of a hexadecimal digit in either case. -/
def hexDigit? (c : Char) : Option Nat :=
  if isDigit c then some (digitValue c)
  else if 'a' ≤ c && c ≤ 'f' then some (c.toNat - 'a'.toNat + 10)
  else if 'A' ≤ c && c ≤ 'F' then some (c.toNat - 'A'.toNat + 10)
  else none

/-- The value of a digit below a base. -/
def digitBelow? (base : Nat) (c : Char) : Option Nat := (hexDigit? c).filter (· < base)

/-- The number written by a text of digits below a base alone, at least one of them. -/
def ofBase? (base : Nat) (cs : List Char) : Option Nat :=
  if cs.isEmpty then none else cs.foldlM (fun n c ↦ (digitBelow? base c).map (base * n + ·)) 0

/-- The number written by a text of hexadecimal digits alone, at least one of them. -/
def ofHex? (cs : List Char) : Option Nat :=
  if cs.isEmpty then none
  else cs.foldlM (fun n c ↦ (hexDigit? c).map (16 * n + ·)) 0

/-- The lower-case hexadecimal digits of a number, without leading zeros. -/
def toHex (n : Nat) : List Char := Nat.toDigits 16 n

/-- Exactly `n` decimal digits from the front of a text, with their value and the rest. -/
def takeDigits (n : Nat) (cs : List Char) : Option (Nat × List Char) :=
  if (cs.take n).length = n then (ofDigits? (cs.take n)).map (·, cs.drop n) else none

/-- A number in decimal digits, padded with zeros in front to at least `width` of them. -/
def padDigits (width n : Nat) : List Char :=
  let digits := Nat.toDigits 10 n
  List.replicate (width - digits.length) '0' ++ digits

end TagQuery.Text
