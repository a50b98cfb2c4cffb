/-!
# Boolean expressions

An expression combines leaves by *and*, *or* and *not*. Both connectives take any number of
operands; chains of one connective are one node, so `a and b and c` has three operands rather than
two. Joining two expressions extends the left one if it already is a chain of the same connective,
and nests the right one whatever it is.

The leaves are a parameter: the same trees carry the conditions of a query as written and, after
compiling, the predicates that decide them.
-/

namespace TagQuery.Query

/-- A boolean expression over leaves. -/
inductive Expr (α : Type) where
  | all (operands : List (Expr α))
  | any (operands : List (Expr α))
  | not (operand : Expr α)
  | leaf (leaf : α)
  deriving Repr

namespace Expr

variable {α β ε : Type}

/-- The conjunction of two expressions. -/
def and : Expr α → Expr α → Expr α
  | all operands, e => all (operands ++ [e])
  | d, e => all [d, e]

/-- The disjunction of two expressions. -/
def or : Expr α → Expr α → Expr α
  | any operands, e => any (operands ++ [e])
  | d, e => any [d, e]

mutual

/-- The leaves of an expression, from left to right. -/
def leaves : Expr α → List α
  | all operands | any operands => leavesOfList operands
  | not operand => operand.leaves
  | leaf a => [a]

/-- The leaves of several expressions, from left to right. -/
def leavesOfList : List (Expr α) → List α
  | [] => []
  | e :: es => e.leaves ++ leavesOfList es

end

mutual

/-- The expression with every leaf replaced, unless the replacement of a leaf fails; of several
failures the leftmost is reported. -/
def traverse (f : α → Except ε β) : Expr α → Except ε (Expr β)
  | all operands => (traverseList f operands).map all
  | any operands => (traverseList f operands).map any
  | not operand => (operand.traverse f).map not
  | leaf a => (f a).map leaf

/-- The same for several expressions. -/
def traverseList (f : α → Except ε β) : List (Expr α) → Except ε (List (Expr β))
  | [] => .ok []
  | e :: es =>
    match e.traverse f with
    | .error fault => .error fault
    | .ok e' => (traverseList f es).map (e' :: ·)

end

mutual

/-- Whether an expression holds, given which leaves do. -/
def holds (p : α → Bool) : Expr α → Bool
  | all operands => allHold p operands
  | any operands => anyHolds p operands
  | not operand => !operand.holds p
  | leaf a => p a

/-- Whether all of several expressions hold. -/
def allHold (p : α → Bool) : List (Expr α) → Bool
  | [] => true
  | e :: es => e.holds p && allHold p es

/-- Whether one of several expressions holds. -/
def anyHolds (p : α → Bool) : List (Expr α) → Bool
  | [] => false
  | e :: es => e.holds p || anyHolds p es

end

theorem allHold_append (p : α → Bool) (es fs : List (Expr α)) :
    allHold p (es ++ fs) = (allHold p es && allHold p fs) := by
  induction es with
  | nil => simp [allHold]
  | cons e es ih => simp [allHold, ih, Bool.and_assoc]

theorem anyHolds_append (p : α → Bool) (es fs : List (Expr α)) :
    anyHolds p (es ++ fs) = (anyHolds p es || anyHolds p fs) := by
  induction es with
  | nil => simp [anyHolds]
  | cons e es ih => simp [anyHolds, ih, Bool.or_assoc]

@[simp] theorem holds_and (p : α → Bool) (d e : Expr α) :
    (d.and e).holds p = (d.holds p && e.holds p) := by
  cases d <;> simp [and, holds, allHold, allHold_append]

@[simp] theorem holds_or (p : α → Bool) (d e : Expr α) :
    (d.or e).holds p = (d.holds p || e.holds p) := by
  cases d <;> simp [or, holds, anyHolds, anyHolds_append]

end Expr

end TagQuery.Query
