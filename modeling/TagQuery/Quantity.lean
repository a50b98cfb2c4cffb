import TagQuery.Comparison

/-!
# Quantities

A quantity is a number in the canonical unit of its dimension: kilometres per hour, metres or
tonnes. A number without a unit has no dimension and compares with every other quantity; two
quantities of different dimensions never compare, in either direction.
-/

namespace TagQuery

/-- What a unit measures. -/
inductive Dimension where
  | speed
  | length
  | weight
  deriving DecidableEq, Repr

namespace Dimension

/-- The name of a dimension. -/
def name : Dimension → String
  | speed => "speed"
  | length => "length"
  | weight => "weight"

/-- The dimension of a name. -/
def ofName? : String → Option Dimension
  | "speed" => some speed
  | "length" => some length
  | "weight" => some weight
  | _ => none

theorem ofName?_name (d : Dimension) : ofName? d.name = some d := by
  cases d <;> rfl

end Dimension

/-- A number in the canonical unit of its dimension, or a bare number. -/
structure Quantity where
  value : Float
  dimension : Option Dimension

namespace Quantity

/-- A number without a unit. -/
def plain (value : Float) : Quantity := ⟨value, none⟩

/-- Whether two quantities may be compared: they may unless they have different dimensions. -/
def comparable (a b : Quantity) : Bool :=
  match a.dimension, b.dimension with
  | some x, some y => x = y
  | _, _ => true

/-- Whether a comparison holds between two quantities. -/
def compare (op : Comparison) (a b : Quantity) : Bool :=
  a.comparable b && op.holds a.value b.value

end Quantity

end TagQuery
