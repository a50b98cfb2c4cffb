import TagQuery.Calendar.Date
import TagQuery.Text.Blank
import TagQuery.Text.Utf8

/-!
# Dates in tags

The value of a tag is a date if it is written as `2021-05-17`, `2021-05` or `2021`, blanks around
it aside. A missing month or day is the first one.

A part of a date has its width in bytes, and all its bytes have to be digits. So a part with any
other character in it is no number, whatever the width of that character.
-/

namespace TagQuery.Date

/-- The number that a text writes if all its bytes are decimal digits. -/
def digits? (cs : List Char) : Option Nat :=
  if (Text.utf8 cs).all fun b ↦ Text.isDigit (.ofUInt8 b) then Text.ofDigits? cs else none

/-- The number that a text of exactly `width` bytes writes, all of them decimal digits. -/
def fixedDigits? (width : Nat) (cs : List Char) : Option Nat :=
  if Text.utf8Length cs = width then digits? cs else none

/-- The date that year, month and day write, as many of them as there are. -/
def ofParts? : List (List Char) → Option Date
  | [year] => do of? (← fixedDigits? 4 year) 1 1
  | [year, month] => do of? (← fixedDigits? 4 year) (← fixedDigits? 2 month) 1
  | [year, month, day] => do
    of? (← fixedDigits? 4 year) (← fixedDigits? 2 month) (← fixedDigits? 2 day)
  | _ => none

/-- The date that the value of a tag writes, given its characters. -/
def ofChars? (cs : List Char) : Option Date :=
  ofParts? (Text.splitAt (· == '-') (Text.trim cs))

/-- The date that the value of a tag writes. -/
def ofTagValue? (value : String) : Option Date := ofChars? value.toList

end TagQuery.Date
