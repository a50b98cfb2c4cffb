/-!
# Faults of literals

A literal of a query is a number with an optional unit, or a date. A faulty one is reported with
its text as written and the reason.
-/

namespace TagQuery

/-- What is wrong with a date given relative to today. -/
inductive RelativeDateFault where
  | offsetNotWhole
  | unknownUnit
  | missingUnit
  | trailingText
  | offsetOutOfRange
  deriving DecidableEq, Repr

namespace RelativeDateFault

/-- The reason as it is shown. -/
def message : RelativeDateFault → String
  | offsetNotWhole => "offset must be a whole number"
  | unknownUnit => "unit must be days, weeks, months or years"
  | missingUnit => "missing unit"
  | trailingText => "unexpected trailing text"
  | offsetOutOfRange => "offset out of range"

end RelativeDateFault

/-- What is wrong with a literal. -/
inductive LiteralError where
  | invalidNumber (literal : String)
  | unknownUnit (literal unit : String)
  | invalidDate (literal : String)
  | invalidRelativeDate (literal : String) (fault : RelativeDateFault)
  deriving DecidableEq, Repr

namespace LiteralError

/-- The fault as it is shown. -/
def message : LiteralError → String
  | invalidNumber literal => s!"invalid number '{literal}'"
  | unknownUnit literal unit => s!"unknown unit '{unit}' in '{literal}'"
  | invalidDate literal => s!"invalid date '{literal}'"
  | invalidRelativeDate literal fault => s!"invalid relative date '{literal}': {fault.message}"

end LiteralError

end TagQuery
