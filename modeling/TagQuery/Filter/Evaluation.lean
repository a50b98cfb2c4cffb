import TagQuery.Element.View
import TagQuery.Filter.Predicate

/-!
# Evaluating predicates

Whether an element satisfies a predicate, together with what had to be looked at to find out: the
value of a key, or all tags in turn. Operands are looked at from left to right, and no further than
the answer needs.

An element's age is counted from the day on which it was last known to be right. That is the latest
of the date of its last edit and the dates of five keys under which mappers note a check; values
that are no dates do not count.
-/

namespace TagQuery

/-- An access to the tags of an element. -/
inductive Lookup where
  | key (key : String)
  | all
  deriving DecidableEq, Repr

/-- An answer together with the accesses that led to it, in their order. -/
structure Traced (α : Type) where
  value : α
  lookups : List Lookup

namespace Traced

variable {α β : Type}

/-- An answer that needs no access. -/
def pure (value : α) : Traced α := ⟨value, []⟩

/-- An answer computed from another one. -/
def map (f : α → β) (a : Traced α) : Traced β := ⟨f a.value, a.lookups⟩

/-- The answers to several questions, which are all asked in their order. -/
def all : List (Traced α) → Traced (List α)
  | [] => pure []
  | a :: as => ⟨a.value :: (all as).value, a.lookups ++ (all as).lookups⟩

/-- The conjunction of two answers, the second of which is sought only if the first is positive. -/
def and (a b : Traced Bool) : Traced Bool :=
  if a.value then ⟨b.value, a.lookups ++ b.lookups⟩ else a

/-- The disjunction of two answers, the second of which is sought only if the first is negative. -/
def or (a b : Traced Bool) : Traced Bool :=
  if a.value then a else ⟨b.value, a.lookups ++ b.lookups⟩

@[simp] theorem value_and (a b : Traced Bool) : (a.and b).value = (a.value && b.value) := by
  unfold and; split <;> simp_all

@[simp] theorem value_or (a b : Traced Bool) : (a.or b).value = (a.value || b.value) := by
  unfold or; split <;> simp_all

theorem and_pure_true (a : Traced Bool) : a.and (pure true) = a := by
  obtain ⟨value, lookups⟩ := a
  cases value <;> simp [and, pure]

theorem or_pure_false (a : Traced Bool) : a.or (pure false) = a := by
  obtain ⟨value, lookups⟩ := a
  cases value <;> simp [or, pure]

theorem and_assoc (a b c : Traced Bool) : (a.and b).and c = a.and (b.and c) := by
  obtain ⟨value, lookups⟩ := a
  obtain ⟨value', lookups'⟩ := b
  cases value <;> cases value' <;> simp [and]

theorem or_assoc (a b c : Traced Bool) : (a.or b).or c = a.or (b.or c) := by
  obtain ⟨value, lookups⟩ := a
  obtain ⟨value', lookups'⟩ := b
  cases value <;> cases value' <;> simp [or]

end Traced

namespace TagView

variable {ε : Type} [TagView ε]

/-- The value of a key. -/
def lookup (e : ε) (key : String) : Traced (Option String) := ⟨tag? e key, [.key key]⟩

/-- Whether some tag satisfies `p`. -/
def anyTag (e : ε) (p : String → String → Bool) : Traced Bool :=
  ⟨(tags e).any fun tag ↦ p tag.1 tag.2, [.all]⟩

end TagView

/-! ## The last check -/

/-- The keys under which the date of a check is noted. -/
def checkKeys : List String :=
  ["check_date", "lastcheck", "last_checked", "survey:date", "survey_date"]

/-- The latest of some dates, if there are any. -/
def Date.latestOf? : List Date → Option Date
  | [] => none
  | d :: ds => some (ds.foldl Date.latest d)

/-- The day on which an element was last known to be right. -/
def ElementView.lastCheck {ε : Type} [ElementView ε] (e : ε) : Traced (Option Date) :=
  (Traced.all (checkKeys.map (TagView.lookup e))).map fun values ↦
    Date.latestOf? (values.filterMap (·.bind Date.ofTagValue?) ++ (editDate e).toList)

/-- The day on which an element was last known to be right. -/
def Element.lastCheck (e : Element) : Option Date := (ElementView.lastCheck e).value

namespace Predicate

/-- What the values of patterns are tested for: whether one of them fits. -/
def fitsAny (patterns : List Pattern) (value : String) : Bool := patterns.any (·.holds value)

/-- Whether the last check lies strictly on the given side of a date. -/
def isAged (age : Query.Age) (lastCheck threshold : Date) : Bool :=
  match age with
  | .older => lastCheck < threshold
  | .newer => threshold < lastCheck

/-- Whether an element satisfies a predicate on a given day. -/
def evaluate {ε : Type} [ElementView ε] (units : UnitTable) (today : Date) (e : ε) :
    Predicate → Traced Bool
  | hasKey key => (TagView.lookup e key).map fun v ↦ v.any (!·.isEmpty)
  | lacksKey key => (TagView.lookup e key).map fun v ↦ !v.any (!·.isEmpty)
  | equals key value => (TagView.lookup e key).map (· == some value)
  | notEquals key value => (TagView.lookup e key).map (· != some value)
  | matchesAny key patterns => (TagView.lookup e key).map fun v ↦ v.any (fitsAny patterns)
  | matchesNone key patterns => (TagView.lookup e key).map fun v ↦ !v.any (fitsAny patterns)
  | quantity key op threshold => (TagView.lookup e key).map fun v ↦
      (v.bind units.parseTagValue?).any fun actual ↦ actual.compare op threshold
  | date key op literal => (TagView.lookup e key).map fun v ↦
      (v.bind Date.ofTagValue?).any fun actual ↦ op.holds actual (literal.resolve today)
  | hasKeyLike keys => TagView.anyTag e fun k _ ↦ keys.holds k
  | lacksKeyLike keys => (TagView.anyTag e fun k _ ↦ keys.holds k).map (!·)
  | hasTagLike keys patterns => TagView.anyTag e fun k v ↦ keys.holds k && fitsAny patterns v
  | aged age literal => (ElementView.lastCheck e).map fun d ↦
      d.any fun lastCheck ↦ isAged age lastCheck (literal.resolve today)

end Predicate

namespace Query.Expr

variable {α : Type}

mutual

/-- The answer of an expression whose leaves are answered by `f`. -/
def evaluate (f : α → Traced Bool) : Expr α → Traced Bool
  | all operands => evaluateAll f operands
  | any operands => evaluateAny f operands
  | not operand => (operand.evaluate f).map (!·)
  | leaf a => f a

/-- The answer of the conjunction of several expressions. -/
def evaluateAll (f : α → Traced Bool) : List (Expr α) → Traced Bool
  | [] => .pure true
  | e :: es => (e.evaluate f).and (evaluateAll f es)

/-- The answer of the disjunction of several expressions. -/
def evaluateAny (f : α → Traced Bool) : List (Expr α) → Traced Bool
  | [] => .pure false
  | e :: es => (e.evaluate f).or (evaluateAny f es)

end

/-! ### Chains -/

theorem evaluateAll_append (f : α → Traced Bool) (es fs : List (Expr α)) :
    evaluateAll f (es ++ fs) = (evaluateAll f es).and (evaluateAll f fs) := by
  induction es with
  | nil => rfl
  | cons e es ih => rw [List.cons_append, evaluateAll, evaluateAll, ih, Traced.and_assoc]

theorem evaluateAny_append (f : α → Traced Bool) (es fs : List (Expr α)) :
    evaluateAny f (es ++ fs) = (evaluateAny f es).or (evaluateAny f fs) := by
  induction es with
  | nil => rfl
  | cons e es ih => rw [List.cons_append, evaluateAny, evaluateAny, ih, Traced.or_assoc]

/-- Joining an expression to a chain asks for it after all operands of the chain. -/
theorem evaluate_and (f : α → Traced Bool) (d e : Expr α) :
    (d.and e).evaluate f = (d.evaluate f).and (e.evaluate f) := by
  have hsingle : evaluateAll f [e] = e.evaluate f := Traced.and_pure_true _
  cases d with
  | all operands => rw [and, evaluate, evaluateAll_append, hsingle, evaluate]
  | _ => exact congrArg _ hsingle

theorem evaluate_or (f : α → Traced Bool) (d e : Expr α) :
    (d.or e).evaluate f = (d.evaluate f).or (e.evaluate f) := by
  have hsingle : evaluateAny f [e] = e.evaluate f := Traced.or_pure_false _
  cases d with
  | any operands => rw [or, evaluate, evaluateAny_append, hsingle, evaluate]
  | _ => exact congrArg _ hsingle

mutual

/-- Looking no further than needed does not change the answer. -/
theorem value_evaluate (f : α → Traced Bool) (e : Expr α) :
    (e.evaluate f).value = e.holds fun a ↦ (f a).value := by
  cases e with
  | all operands => simpa [evaluate, holds] using value_evaluateAll f operands
  | any operands => simpa [evaluate, holds] using value_evaluateAny f operands
  | not operand => simp [evaluate, holds, Traced.map, value_evaluate f operand]
  | leaf a => simp [evaluate, holds]

theorem value_evaluateAll (f : α → Traced Bool) (es : List (Expr α)) :
    (evaluateAll f es).value = allHold (fun a ↦ (f a).value) es := by
  cases es with
  | nil => rfl
  | cons e es => simp [evaluateAll, allHold, value_evaluate f e, value_evaluateAll f es]

theorem value_evaluateAny (f : α → Traced Bool) (es : List (Expr α)) :
    (evaluateAny f es).value = anyHolds (fun a ↦ (f a).value) es := by
  cases es with
  | nil => rfl
  | cons e es => simp [evaluateAny, anyHolds, value_evaluate f e, value_evaluateAny f es]

end

end Query.Expr

end TagQuery
