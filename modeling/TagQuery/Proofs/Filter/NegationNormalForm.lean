import TagQuery.Filter.Evaluation

/-!
# Negations at the leaves

A negation can be moved from an expression to its operands, and from there on down to the leaves. It
turns the connectives on its way into each other, it cancels against a second negation, and a leaf
takes it in if there is a predicate that says the opposite. What results is the expression's
*negation normal form*, which has the same answer for every element after the same look-ups
(`evaluate_normalForm`).

## Which leaves say the opposite of which

Predicates on whether a key is there, on its value as a text and on the patterns of keys come in
pairs, one of which holds just where the other fails. An absent key fails the positive one of a
pair, an empty value does so too where only the key matters, and the negative one is defined to hold
in both cases. There are no such pairs of comparisons, of predicates on key and value at once, and
of predicates on the age: an element without tags and without a stamp fails all of them, so none of
them is the opposite of another one (`evaluate_of_complement?_eq_none`). Before these the negation
stays.

## Why the look-ups are the same

A conjunction stops at the first operand that is false. The disjunction that its negation becomes
stops at the first operand that is true, and its operands are the negations of the former ones, so
it is the same operand. The induction therefore speaks of the whole traced answer, for an expression
and for its negation at once, since each of the two needs the other.
-/

namespace TagQuery

namespace Traced

/-- The answer to the opposite question, found in the same way. -/
def negate (a : Traced Bool) : Traced Bool := a.map (!·)

@[simp] theorem negate_negate (a : Traced Bool) : a.negate.negate = a := by
  obtain ⟨value, lookups⟩ := a
  simp [negate, map]

@[simp] theorem negate_pure (b : Bool) : (pure b).negate = pure !b := rfl

/-- **De Morgan's laws keep the look-ups.** -/
@[simp] theorem negate_and (a b : Traced Bool) : (a.and b).negate = a.negate.or b.negate := by
  obtain ⟨value, lookups⟩ := a
  cases value <;> rfl

@[simp] theorem negate_or (a b : Traced Bool) : (a.or b).negate = a.negate.and b.negate := by
  obtain ⟨value, lookups⟩ := a
  cases value <;> rfl

end Traced

/-! ## Opposite predicates -/

namespace Predicate

/-- The predicate that holds just where another one fails, if there is one. -/
def complement? : Predicate → Option Predicate
  | hasKey key => some (lacksKey key)
  | lacksKey key => some (hasKey key)
  | equals key value => some (notEquals key value)
  | notEquals key value => some (equals key value)
  | matchesAny key patterns => some (matchesNone key patterns)
  | matchesNone key patterns => some (matchesAny key patterns)
  | hasKeyLike keys => some (lacksKeyLike keys)
  | lacksKeyLike keys => some (hasKeyLike keys)
  | quantity .. | date .. | hasTagLike .. | aged .. => none

variable {ε : Type} [ElementView ε] {units : UnitTable} {today : Date}

/-- Opposite predicates give opposite answers to every element, after the same look-ups. -/
theorem evaluate_complement {p q : Predicate} (h : p.complement? = some q) (e : ε) :
    q.evaluate units today e = (p.evaluate units today e).negate := by
  cases p <;> cases h <;> simp [evaluate, Traced.negate, Traced.map, bne]

/-- An element of which nothing is known fails every predicate that has no opposite. -/
theorem evaluate_of_complement?_eq_none {p : Predicate} (h : p.complement? = none) (kind : Kind)
    (id : Int64) : (p.evaluate units today (⟨kind, id, .empty, none⟩ : Element)).value = false := by
  cases p <;> cases h <;> rfl

end Predicate

/-! ## The normal form -/

namespace Query.Expr

mutual

/-- An expression, or its negation, with all negations moved to the leaves. -/
def moveNot (negated : Bool) : Expr Predicate → Expr Predicate
  | all operands => if negated then any (moveNots true operands) else all (moveNots false operands)
  | any operands => if negated then all (moveNots true operands) else any (moveNots false operands)
  | not operand => operand.moveNot !negated
  | leaf p => if negated then (p.complement?.map leaf).getD (not (leaf p)) else leaf p

/-- The same for several expressions. -/
def moveNots (negated : Bool) : List (Expr Predicate) → List (Expr Predicate)
  | [] => []
  | e :: es => e.moveNot negated :: moveNots negated es

end

/-- The negation normal form of an expression. -/
def normalForm (e : Expr Predicate) : Expr Predicate := e.moveNot false

/-- The rules by which negations move, as equations for what they are moved by. -/
structure MovesNegations (f : Expr Predicate → Expr Predicate) : Prop where
  all (es : List (Expr Predicate)) : f (all es) = .all (es.map f)
  any (es : List (Expr Predicate)) : f (any es) = .any (es.map f)
  leaf (p : Predicate) : f (leaf p) = .leaf p
  not_all (es : List (Expr Predicate)) : f (not (.all es)) = .any (es.map fun e ↦ f (not e))
  not_any (es : List (Expr Predicate)) : f (not (.any es)) = .all (es.map fun e ↦ f (not e))
  not_not (e : Expr Predicate) : f (not (not e)) = f e
  not_leaf {p q : Predicate} (h : p.complement? = some q) : f (not (.leaf p)) = .leaf q
  not_comparison {p : Predicate} (h : p.complement? = none) : f (not (.leaf p)) = not (.leaf p)

/-- Whether negations stand before leaves alone, and only before those without an opposite. -/
inductive IsNegationNormal : Expr Predicate → Prop where
  | all {es : List (Expr Predicate)} (h : ∀ e ∈ es, IsNegationNormal e) : IsNegationNormal (all es)
  | any {es : List (Expr Predicate)} (h : ∀ e ∈ es, IsNegationNormal e) : IsNegationNormal (any es)
  | leaf (p : Predicate) : IsNegationNormal (leaf p)
  | notLeaf {p : Predicate} (h : p.complement? = none) : IsNegationNormal (not (leaf p))

theorem moveNots_eq_map (negated : Bool) (es : List (Expr Predicate)) :
    moveNots negated es = es.map (moveNot negated) := by
  induction es with
  | nil => rfl
  | cons e es ih => rw [moveNots, ih, List.map_cons]

theorem movesNegations_normalForm : MovesNegations normalForm where
  all es := congrArg Expr.all (moveNots_eq_map false es)
  any es := congrArg Expr.any (moveNots_eq_map false es)
  leaf _ := rfl
  not_all es := congrArg Expr.any (moveNots_eq_map true es)
  not_any es := congrArg Expr.all (moveNots_eq_map true es)
  not_not _ := rfl
  not_leaf h := by simp [normalForm, moveNot, h]
  not_comparison h := by simp [normalForm, moveNot, h]

mutual

theorem isNegationNormal_moveNot (negated : Bool) (e : Expr Predicate) :
    (e.moveNot negated).IsNegationNormal := by
  cases e with
  | all operands =>
    have hoperands := isNegationNormal_moveNots negated operands
    cases negated with
    | false => exact .all hoperands
    | true => exact .any hoperands
  | any operands =>
    have hoperands := isNegationNormal_moveNots negated operands
    cases negated with
    | false => exact .any hoperands
    | true => exact .all hoperands
  | not operand => exact isNegationNormal_moveNot (!negated) operand
  | leaf p =>
    cases negated with
    | false => exact .leaf p
    | true =>
      cases h : p.complement? with
      | none =>
        rw [moveNot, if_pos rfl, h]
        exact .notLeaf h
      | some q =>
        rw [moveNot, if_pos rfl, h]
        exact .leaf q

theorem isNegationNormal_moveNots (negated : Bool) (es : List (Expr Predicate)) :
    ∀ e ∈ moveNots negated es, IsNegationNormal e := by
  cases es with
  | nil => exact nofun
  | cons e es =>
    exact List.forall_mem_cons.mpr
      ⟨isNegationNormal_moveNot negated e, isNegationNormal_moveNots negated es⟩

end

/-! ## What the normal form says -/

section Evaluate

variable {ε : Type} [ElementView ε] (units : UnitTable) (today : Date) (e : ε)

mutual

/-- Moving negations keeps the answer of an expression, and gives that of its negation if it was to
be negated. -/
theorem evaluate_moveNot (c : Expr Predicate) :
    (c.moveNot false).evaluate (Predicate.evaluate units today e)
      = c.evaluate (Predicate.evaluate units today e) ∧
    (c.moveNot true).evaluate (Predicate.evaluate units today e)
      = (c.evaluate (Predicate.evaluate units today e)).negate := by
  cases c with
  | all operands => exact evaluateAll_moveNots operands
  | any operands => exact evaluateAny_moveNots operands
  | not operand =>
    obtain ⟨hkept, hnegated⟩ := evaluate_moveNot operand
    refine ⟨hnegated, hkept.trans ?_⟩
    exact (Traced.negate_negate _).symm
  | leaf p =>
    refine ⟨rfl, ?_⟩
    rw [moveNot, if_pos rfl]
    cases h : p.complement? with
    | none => rfl
    | some q => exact Predicate.evaluate_complement h e

theorem evaluateAll_moveNots (cs : List (Expr Predicate)) :
    evaluateAll (Predicate.evaluate units today e) (moveNots false cs)
      = evaluateAll (Predicate.evaluate units today e) cs ∧
    evaluateAny (Predicate.evaluate units today e) (moveNots true cs)
      = (evaluateAll (Predicate.evaluate units today e) cs).negate := by
  cases cs with
  | nil => exact ⟨rfl, rfl⟩
  | cons c cs =>
    obtain ⟨hkept, hnegated⟩ := evaluate_moveNot c
    obtain ⟨hkepts, hnegateds⟩ := evaluateAll_moveNots cs
    constructor
    · rw [moveNots, evaluateAll, hkept, hkepts, evaluateAll]
    · rw [moveNots, evaluateAny, hnegated, hnegateds, evaluateAll, Traced.negate_and]

theorem evaluateAny_moveNots (cs : List (Expr Predicate)) :
    evaluateAny (Predicate.evaluate units today e) (moveNots false cs)
      = evaluateAny (Predicate.evaluate units today e) cs ∧
    evaluateAll (Predicate.evaluate units today e) (moveNots true cs)
      = (evaluateAny (Predicate.evaluate units today e) cs).negate := by
  cases cs with
  | nil => exact ⟨rfl, rfl⟩
  | cons c cs =>
    obtain ⟨hkept, hnegated⟩ := evaluate_moveNot c
    obtain ⟨hkepts, hnegateds⟩ := evaluateAny_moveNots cs
    constructor
    · rw [moveNots, evaluateAny, hkept, hkepts, evaluateAny]
    · rw [moveNots, evaluateAll, hnegated, hnegateds, evaluateAny, Traced.negate_or]

end

end Evaluate

/-- **Negations can be moved to the leaves.** There is a way of moving them by the rules, and what
results has negations before comparisons, predicates on key and value, and predicates on the age
alone. Every element gets the same answer from it on every day, by whatever units, after the same
look-ups. -/
theorem evaluate_normalForm :
    MovesNegations normalForm ∧
    ∀ c : Expr Predicate, c.normalForm.IsNegationNormal ∧
      ∀ {ε : Type} [ElementView ε] (units : UnitTable) (today : Date) (e : ε),
        c.normalForm.evaluate (Predicate.evaluate units today e)
          = c.evaluate (Predicate.evaluate units today e) :=
  ⟨movesNegations_normalForm, fun c ↦
    ⟨isNegationNormal_moveNot false c, fun units today e ↦ (evaluate_moveNot units today e c).1⟩⟩

end Query.Expr

end TagQuery
