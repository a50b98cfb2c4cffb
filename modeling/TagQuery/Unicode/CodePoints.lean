import TagQuery.Text.Digits

/-!
# Sets of code points

Character properties come as lists of closed ranges of code points. A set is kept as such a list
and asked by membership alone, so nothing depends on the ranges being sorted or disjoint, and the
union of two sets is the two lists one after the other.

The tables are written in the notation of the Unicode Character Database: ranges in hexadecimal,
`41-5A AA C0-D6`, separated by single spaces and split over several lines.
-/

namespace TagQuery.Unicode

/-- A set of code points, as closed ranges. -/
structure CodePoints where
  ranges : List (Nat × Nat)
  deriving DecidableEq, Repr

namespace CodePoints

/-- Whether a code point lies in one of the ranges. -/
def contains (s : CodePoints) (n : Nat) : Bool :=
  s.ranges.any fun r ↦ r.1 ≤ n && n ≤ r.2

/-- The code points of either set. -/
def union (s t : CodePoints) : CodePoints := ⟨s.ranges ++ t.ranges⟩

/-- The code points of any of the sets. -/
def unions (sets : List CodePoints) : CodePoints := ⟨sets.flatMap ranges⟩

@[simp] theorem contains_union (s t : CodePoints) (n : Nat) :
    (s.union t).contains n = (s.contains n || t.contains n) := by
  simp [contains, union, List.any_append]

/-- A range in hexadecimal, `41-5A`, or a single code point, `AA`. -/
def range? (text : String) : Option (Nat × Nat) :=
  match text.splitOn "-" with
  | [one] => (Text.ofHex? one.toList).map fun n ↦ (n, n)
  | [lo, hi] => do return (← Text.ofHex? lo.toList, ← Text.ofHex? hi.toList)
  | _ => none

/-- The set that lines of ranges write. -/
def ofLines (lines : List String) : CodePoints :=
  ⟨lines.flatMap fun line ↦ (line.splitOn " ").filterMap range?⟩

end CodePoints

/-- A set of code points with the names it goes by, in lower case and without separators. -/
structure NamedCodePoints where
  names : List String
  lines : List String

namespace NamedCodePoints

/-- The set without its names. -/
def points (entry : NamedCodePoints) : CodePoints := .ofLines entry.lines

/-- The set that goes by `name` in a table. -/
def find? (table : List NamedCodePoints) (name : String) : Option CodePoints :=
  (table.find? (·.names.contains name)).map points

end NamedCodePoints

end TagQuery.Unicode
