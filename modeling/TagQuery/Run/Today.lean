import TagQuery.Calendar.TagDate
import TagQuery.Text.Quoted

/-!
# The date that a run counts from

Relative dates count from the day of the run, unless the run is told another date. That date should
be written in full and without blanks, as `2024-02-29`. A text that is as long as that in bytes is
read like the value of a tag, and any other is refused unread.
-/

namespace TagQuery.Today

/-- What is wrong with a text that should write a date. -/
inductive Fault where
  | wrongLength (text : String)
  | noDate (text : String)
  deriving DecidableEq, Repr

/-- The fault as it is shown. -/
def Fault.message : Fault → String
  | wrongLength text => "expected YYYY-MM-DD, got " ++ Text.quoted text
  | noDate text => "invalid date: " ++ Text.quoted text

/-- The number of bytes of a date in full. -/
def width : Nat := 10

/-- The date that a text writes for a run to count from. -/
def ofText (text : String) : Except Fault Date :=
  if Text.utf8Length text.toList = width then
    match Date.ofTagValue? text with
    | some d => .ok d
    | none => .error (.noDate text)
  else .error (.wrongLength text)

end TagQuery.Today
