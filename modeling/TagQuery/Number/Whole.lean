import TagQuery.Text.Digits

/-!
# Whole numbers of 64 bits

Identifiers, amounts of time and the whole numbers of settings are kept in signed words of 64 bits.
A text that writes a larger number in decimal writes none of these.
-/

namespace TagQuery.Whole

/-- Whether a number fits into a signed word of 64 bits. -/
def fits (n : Int) : Bool := Int64.minValue.toInt ≤ n && n ≤ Int64.maxValue.toInt

/-- A number, if it fits into a signed word of 64 bits. -/
def ofInt? (n : Int) : Option Int := if fits n then some n else none

/-- The number that a text writes in decimal, with an optional sign. -/
def ofChars? : List Char → Option Int
  | '-' :: digits => (Text.ofDigits? digits).bind fun n ↦ ofInt? (-n)
  | '+' :: digits => (Text.ofDigits? digits).bind fun n ↦ ofInt? n
  | digits => (Text.ofDigits? digits).bind fun n ↦ ofInt? n

end TagQuery.Whole
