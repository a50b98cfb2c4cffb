/-!
# Progress

A counter of what a run has processed. It counts in 64 bits and wraps around. While a run goes on
its count is shown whenever it has passed a multiple of the interval; an interval of zero counts as
one.
-/

namespace TagQuery

/-- A count and the interval at which it is shown. -/
structure Progress where
  interval : UInt64
  count : UInt64
  deriving DecidableEq, Repr

namespace Progress

/-- A counter at zero. -/
def new (interval : UInt64) : Progress := ⟨max interval 1, 0⟩

/-- A counter some steps further. -/
def advance (p : Progress) (steps : UInt64) : Progress := { p with count := p.count + steps }

theorem advance_advance (p : Progress) (a b : Nat) :
    (p.advance (.ofNat a)).advance (.ofNat b) = p.advance (.ofNat (a + b)) := by
  rw [advance, advance, advance, UInt64.ofNat_add, UInt64.add_assoc]

/-- Whether the count passes a multiple of the interval in some steps. -/
def isShownAfter (p : Progress) (steps : UInt64) : Bool :=
  p.count / p.interval < (p.advance steps).count / p.interval

/-- A shown count, which takes the place of the one shown before. -/
def line (label : String) (p : Progress) : String := s!"\r{label}: {p.count}"

end Progress

end TagQuery
