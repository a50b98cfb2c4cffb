/-!
# Order comparisons

The four comparisons of the query language. They apply to floating-point numbers, where every one
of them fails on something that is not a number, and to dates.
-/

namespace TagQuery

/-- One of `<`, `<=`, `>` and `>=`. -/
inductive Comparison where
  | less
  | lessEqual
  | greater
  | greaterEqual
  deriving DecidableEq, Repr

namespace Comparison

/-- The sign of a comparison in a query. -/
def sign : Comparison → String
  | less => "<"
  | lessEqual => "<="
  | greater => ">"
  | greaterEqual => ">="

/-- Whether a comparison holds between two values. -/
def holds {α : Type} [LT α] [LE α] [DecidableLT α] [DecidableLE α] :
    Comparison → α → α → Bool
  | less, a, b => a < b
  | lessEqual, a, b => a ≤ b
  | greater, a, b => b < a
  | greaterEqual, a, b => b ≤ a

end Comparison

end TagQuery
