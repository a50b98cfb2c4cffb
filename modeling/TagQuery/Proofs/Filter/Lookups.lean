import TagQuery.Filter.Basic

/-!
# What an answer depends on

The answer of a filter comes with the accesses that led to it. Another element for which these
accesses turn up the same gets the same answer after the same accesses, whatever else its tags are
(`examine_congr_of_lookups`).

## Why the accesses of one run are enough

The statement is about two runs, but assumes something of the accesses of one run only. That the
other run has the same accesses is part of what is shown. Which key is asked for next may depend on
what was found before, so the two runs are followed in step: as long as they have found the same,
they ask for the same, and at the first key where they could part they find the same by assumption.

A relation between two traced answers carries this through the connectives. Given which accesses
turn up the same, `Settled` says that the answers are equal *if* all accesses of the first one are
among these. Operands that are not reached add no accesses, so nothing is assumed of them.
-/

namespace TagQuery

/-- Whether two answers are equal, with their accesses, if all accesses of the first one turn up the
same. -/
def Settled {α : Type} (same : Lookup → Prop) (a b : Traced α) : Prop :=
  (∀ l ∈ a.lookups, same l) → a = b

/-! ## Answers made of others -/

namespace Settled

variable {α β : Type} {same : Lookup → Prop}

theorem refl (a : Traced α) : Settled same a a := fun _ ↦ rfl

theorem map {a b : Traced α} (h : Settled same a b) (f : α → β) :
    Settled same (a.map f) (b.map f) := fun hsame ↦ congrArg (Traced.map f) (h hsame)

theorem all {f g : β → Traced α} (h : ∀ b, Settled same (f b) (g b)) (bs : List β) :
    Settled same (.all (bs.map f)) (.all (bs.map g)) := by
  induction bs with
  | nil => exact .refl _
  | cons b bs ih =>
    intro hsame
    obtain ⟨hhead, htail⟩ := List.forall_mem_append.mp hsame
    rw [List.map_cons, List.map_cons, Traced.all, Traced.all, h b hhead, ih htail]

theorem and {a b c d : Traced Bool} (h : Settled same a b) (h' : Settled same c d) :
    Settled same (a.and c) (b.and d) := by
  intro hsame
  rw [Traced.and] at hsame
  split at hsame
  · -- both sides were sought, so the accesses of both turn up the same
    next hvalue =>
    obtain ⟨hleft, hright⟩ := List.forall_mem_append.mp hsame
    rw [← h hleft, ← h' hright]
  · -- the right sides may differ here, as nobody asks for them
    next hvalue => rw [← h hsame, Traced.and, Traced.and, if_neg hvalue, if_neg hvalue]

theorem or {a b c d : Traced Bool} (h : Settled same a b) (h' : Settled same c d) :
    Settled same (a.or c) (b.or d) := by
  intro hsame
  rw [Traced.or] at hsame
  split at hsame
  · next hvalue => rw [← h hsame, Traced.or, Traced.or, if_pos hvalue, if_pos hvalue]
  · next hvalue =>
    obtain ⟨hleft, hright⟩ := List.forall_mem_append.mp hsame
    rw [← h hleft, ← h' hright]

end Settled

namespace Query.Expr

variable {α : Type} {same : Lookup → Prop} {f g : α → Traced Bool}

mutual

/-- Settled leaves settle an expression. -/
theorem settled_evaluate (e : Expr α) (h : ∀ a ∈ e.leaves, Settled same (f a) (g a)) :
    Settled same (e.evaluate f) (e.evaluate g) := by
  cases e with
  | all operands => exact settled_evaluateAll operands h
  | any operands => exact settled_evaluateAny operands h
  | not operand => exact (settled_evaluate operand h).map _
  | leaf a => exact h a List.mem_cons_self

theorem settled_evaluateAll (es : List (Expr α))
    (h : ∀ a ∈ leavesOfList es, Settled same (f a) (g a)) :
    Settled same (evaluateAll f es) (evaluateAll g es) := by
  cases es with
  | nil => exact .refl _
  | cons e es =>
    obtain ⟨hhead, htail⟩ := List.forall_mem_append.mp h
    exact (settled_evaluate e hhead).and (settled_evaluateAll es htail)

theorem settled_evaluateAny (es : List (Expr α))
    (h : ∀ a ∈ leavesOfList es, Settled same (f a) (g a)) :
    Settled same (evaluateAny f es) (evaluateAny g es) := by
  cases es with
  | nil => exact .refl _
  | cons e es =>
    obtain ⟨hhead, htail⟩ := List.forall_mem_append.mp h
    exact (settled_evaluate e hhead).or (settled_evaluateAny es htail)

end

/-- The answer of an expression is made of those of its leaves. -/
theorem evaluate_congr (e : Expr α) (h : ∀ a ∈ e.leaves, f a = g a) :
    e.evaluate f = e.evaluate g := by
  have hsettled : Settled (fun _ ↦ True) (e.evaluate f) (e.evaluate g) :=
    settled_evaluate e fun a ha _ ↦ h a ha
  exact hsettled fun _ _ ↦ trivial

end Query.Expr

/-! ## Accesses to two elements -/

section Accesses

variable {ε ε' : Type} [TagView ε] [TagView ε'] {e : ε} {e' : ε'}

/-- Whether an access turns up the same for two elements. Walks over all tags may differ in their
order. -/
def Lookup.Agrees (e : ε) (e' : ε') : Lookup → Prop
  | key k => TagView.tag? e k = TagView.tag? e' k
  | all => ∀ tag, tag ∈ TagView.tags e ↔ tag ∈ TagView.tags e'

theorem settled_lookup (key : String) :
    Settled (Lookup.Agrees e e') (TagView.lookup e key) (TagView.lookup e' key) := by
  intro hsame
  have hvalue : Lookup.Agrees e e' (.key key) := hsame _ (List.mem_singleton.mpr rfl)
  rw [TagView.lookup, TagView.lookup, hvalue]

/-- Whether some tag satisfies a condition does not depend on the order of the tags. -/
theorem settled_anyTag (p : String → String → Bool) :
    Settled (Lookup.Agrees e e') (TagView.anyTag e p) (TagView.anyTag e' p) := by
  intro hsame
  have htags : Lookup.Agrees e e' .all := hsame _ (List.mem_singleton.mpr rfl)
  have hany : (TagView.tags e).any (fun tag ↦ p tag.1 tag.2) =
      (TagView.tags e').any fun tag ↦ p tag.1 tag.2 := by
    rw [Bool.eq_iff_iff, List.any_eq_true, List.any_eq_true]
    exact exists_congr fun tag ↦ and_congr_left' (htags tag)
  rw [TagView.anyTag, TagView.anyTag, hany]

end Accesses

/-! ## Filters -/

section Filters

variable {ε ε' : Type} [ElementView ε] [ElementView ε'] {e : ε} {e' : ε'}

theorem settled_lastCheck (hstamp : ElementView.stamp e = ElementView.stamp e') :
    Settled (Lookup.Agrees e e') (ElementView.lastCheck e) (ElementView.lastCheck e') := by
  have hdate : ElementView.editDate e = ElementView.editDate e' := by
    rw [ElementView.editDate, ElementView.editDate, hstamp]
  rw [ElementView.lastCheck, ElementView.lastCheck, hdate]
  exact (Settled.all settled_lookup checkKeys).map _

theorem Predicate.settled_evaluate (p : Predicate)
    (hstamp : ElementView.stamp e = ElementView.stamp e') (units : UnitTable) (today : Date) :
    Settled (Lookup.Agrees e e') (evaluate units today e p) (evaluate units today e' p) := by
  -- a predicate is a function of one access, or of the five that date the last check
  cases p with
  | hasKeyLike | hasTagLike => exact settled_anyTag _
  | lacksKeyLike => exact (settled_anyTag _).map _
  | aged => exact (settled_lastCheck hstamp).map _
  | _ => exact (settled_lookup _).map _

namespace Filter

theorem settled_examine (f : Filter) (today : Date)
    (hkind : ElementView.kind e = ElementView.kind e')
    (hstamp : ElementView.stamp e = ElementView.stamp e') :
    Settled (Lookup.Agrees e e') (f.examine today e) (f.examine today e') := by
  rw [examine, examine, hkind]
  split
  · split
    · exact .refl _
    · exact Query.Expr.settled_evaluate _ fun p _ ↦ p.settled_evaluate hstamp f.units today
  · exact .refl _

/-- Lawful views of one kind with the same stamp and the same tags get the same answer. -/
theorem examine_congr [LawfulTagView ε] [LawfulTagView ε'] (f : Filter) (today : Date)
    (hkind : ElementView.kind e = ElementView.kind e')
    (hstamp : ElementView.stamp e = ElementView.stamp e')
    (htag : ∀ key, TagView.tag? e key = TagView.tag? e' key) :
    f.examine today e = f.examine today e' := by
  apply f.settled_examine today hkind hstamp
  intro l _
  cases l with
  | key key => exact htag key
  | all =>
    intro ⟨key, value⟩
    rw [← LawfulTagView.tag?_eq_some_iff, ← LawfulTagView.tag?_eq_some_iff, htag]

/-- **An answer depends on what was looked up, and on nothing else.** Two elements of one kind and
with the same stamp get the same answer after the same accesses if they agree on every key that was
looked up for the first one, and have the same tags in case all were walked. An element whose kind
is not selected is rejected unseen. -/
theorem examine_congr_of_lookups (f : Filter) (today : Date) :
    (∀ (e : ε) (e' : ε'), ElementView.kind e = ElementView.kind e' →
      ElementView.stamp e = ElementView.stamp e' →
      (∀ key, .key key ∈ (f.examine today e).lookups → TagView.tag? e key = TagView.tag? e' key) →
      (.all ∈ (f.examine today e).lookups →
        ∀ tag, tag ∈ TagView.tags e ↔ tag ∈ TagView.tags e') →
      f.accepts today e = f.accepts today e' ∧
        (f.examine today e).lookups = (f.examine today e').lookups) ∧
    ∀ e : ε, f.kinds.contains (ElementView.kind e) = false →
      f.accepts today e = false ∧ (f.examine today e).lookups = [] := by
  constructor
  · intro e e' hkind hstamp hkeys hall
    have hagrees : ∀ l ∈ (f.examine today e).lookups, l.Agrees e e' := by
      intro l hl
      cases l with
      | key key => exact hkeys key hl
      | all => exact hall hl
    have heq : f.examine today e = f.examine today e' :=
      f.settled_examine today hkind hstamp hagrees
    rw [accepts, accepts, heq]
    exact ⟨rfl, rfl⟩
  · intro e hkind
    have hexamine : f.examine today e = .pure false := if_neg (by rw [hkind]; exact nofun)
    rw [accepts, hexamine]
    exact ⟨rfl, rfl⟩

/-- Where the key `shop` decides, a `name` makes no difference. -/
theorem examine_congr_of_lookups_shop :
    let f : Filter := ⟨"nodes with shop or name", ⟨true, false, false⟩,
      some (.any [.leaf (.hasKey "shop"), .leaf (.hasKey "name")]), .standard⟩
    let named : Element := ⟨.node, 1, .ofList [("name", "Bob"), ("shop", "bakery")], none⟩
    let nameless : Element := ⟨.node, 2, .ofList [("shop", "bakery")], none⟩
    (f.examine .first named).lookups = [.key "shop"] ∧ named.tags ≠ nameless.tags ∧
      f.accepts .first named = f.accepts .first nameless ∧
      (f.examine .first named).lookups = (f.examine .first nameless).lookups := by
  intro f named nameless
  have hlookups : (f.examine .first named).lookups = [.key "shop"] := by decide
  refine ⟨hlookups, by decide, ?_⟩
  apply (f.examine_congr_of_lookups .first).1 named nameless rfl rfl
  · intro key hkey
    rw [hlookups, List.mem_singleton] at hkey
    cases hkey
    decide
  · intro hall
    rw [hlookups, List.mem_singleton] at hall
    cases hall

end Filter

end Filters

end TagQuery
