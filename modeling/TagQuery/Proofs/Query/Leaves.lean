import Mathlib.Data.List.Forall2
import TagQuery.Filter.Evaluation
import TagQuery.Proofs.Except
import TagQuery.Proofs.Query.Grammar

/-!
# The leaves of an expression

What an expression says is settled by its leaves. Replacing the leaves succeeds exactly if it does
for every one of them (`exists_traverse_iff`), and otherwise fails with the fault of the leftmost
leaf that has one (`traverse_eq_error_iff`). The new leaves stand where the old ones did
(`forall₂_leaves_of_traverse`) in a tree of the same form (`shape_of_traverse`), and replacements
that answer like the leaves they stand for give the expression the answer it had
(`evaluate_of_traverse`). So the leaves may be looked at one by one, and of chains only the leaves
and the truth in terms of the operands are needed.
-/

namespace TagQuery.Query.Expr

variable {α β ε : Type}

/-! ## Replacing leaves -/

theorem traverseList_cons_eq_ok_iff {f : α → Except ε β} {e : Expr α} {es : List (Expr α)}
    {es' : List (Expr β)} : traverseList f (e :: es) = .ok es' ↔
      ∃ d ds, e.traverse f = .ok d ∧ traverseList f es = .ok ds ∧ d :: ds = es' := by
  rw [traverseList]
  cases e.traverse f with
  | error fault => exact ⟨nofun, nofun⟩
  | ok d =>
    rw [map_eq_ok_iff]
    constructor
    · rintro ⟨ds, hds, rfl⟩
      exact ⟨d, ds, rfl, hds, rfl⟩
    · rintro ⟨_, ds, ⟨⟩, hds, rfl⟩
      exact ⟨ds, hds, rfl⟩

mutual

/-- The leaves can be replaced exactly if every one of them can. -/
theorem exists_traverse_iff (f : α → Except ε β) (e : Expr α) :
    (∃ e', e.traverse f = .ok e') ↔ ∀ a ∈ e.leaves, ∃ b, f a = .ok b := by
  match e with
  | all operands | any operands =>
    simp only [traverse, map_eq_ok_iff, leaves, ← exists_traverseList_iff f operands]
    exact ⟨fun ⟨_, es, h, _⟩ ↦ ⟨es, h⟩, fun ⟨es, h⟩ ↦ ⟨_, es, h, rfl⟩⟩
  | not operand =>
    simp only [traverse, map_eq_ok_iff, leaves, ← exists_traverse_iff f operand]
    exact ⟨fun ⟨_, e, h, _⟩ ↦ ⟨e, h⟩, fun ⟨e, h⟩ ↦ ⟨_, e, h, rfl⟩⟩
  | leaf a =>
    simp only [traverse, map_eq_ok_iff, leaves, List.mem_singleton, forall_eq]
    exact ⟨fun ⟨_, b, h, _⟩ ↦ ⟨b, h⟩, fun ⟨b, h⟩ ↦ ⟨_, b, h, rfl⟩⟩

theorem exists_traverseList_iff (f : α → Except ε β) (es : List (Expr α)) :
    (∃ es', traverseList f es = .ok es') ↔ ∀ a ∈ leavesOfList es, ∃ b, f a = .ok b := by
  match es with
  | [] => exact ⟨fun _ ↦ nofun, fun _ ↦ ⟨[], rfl⟩⟩
  | e :: es =>
    simp only [leavesOfList, List.forall_mem_append, ← exists_traverse_iff f e,
      ← exists_traverseList_iff f es, traverseList_cons_eq_ok_iff]
    exact ⟨fun ⟨_, d, ds, hd, hds, _⟩ ↦ ⟨⟨d, hd⟩, ds, hds⟩,
      fun ⟨⟨d, hd⟩, ds, hds⟩ ↦ ⟨_, d, ds, hd, hds, rfl⟩⟩

end

mutual

/-- The fault of an expression is that of its leftmost faulty leaf. -/
theorem traverse_eq_error_iff {f : α → Except ε β} (e : Expr α) {fault : ε} :
    e.traverse f = .error fault ↔ FirstFault f e.leaves fault := by
  match e with
  | all operands | any operands =>
    rw [traverse, map_eq_error_iff, leaves]
    exact traverseList_eq_error_iff operands
  | not operand =>
    rw [traverse, map_eq_error_iff, leaves]
    exact traverse_eq_error_iff operand
  | leaf a => rw [traverse, map_eq_error_iff, leaves, firstFault_singleton_iff]

theorem traverseList_eq_error_iff {f : α → Except ε β} (es : List (Expr α)) {fault : ε} :
    traverseList f es = .error fault ↔ FirstFault f (leavesOfList es) fault := by
  match es with
  | [] =>
    rw [traverseList, leavesOfList]
    exact ⟨nofun, fun h ↦ absurd h not_firstFault_nil⟩
  | e :: es =>
    rw [traverseList, leavesOfList, firstFault_append_iff, ← traverse_eq_error_iff e,
      ← traverseList_eq_error_iff es, ← exists_traverse_iff f e]
    cases e.traverse f with
    | error fault' => simp
    | ok d => simp [map_eq_error_iff]

end

mutual

/-- Whatever replaces leaves as well makes the same of an expression. -/
theorem traverse_of_imp {f g : α → Except ε β} (hfg : ∀ a b, f a = .ok b → g a = .ok b)
    (e : Expr α) {e' : Expr β} (h : e.traverse f = .ok e') : e.traverse g = .ok e' := by
  match e with
  | all operands | any operands =>
    obtain ⟨es, hes, rfl⟩ := map_eq_ok_iff.mp h
    exact map_eq_ok_iff.mpr ⟨es, traverseList_of_imp hfg operands hes, rfl⟩
  | not operand =>
    obtain ⟨d, hd, rfl⟩ := map_eq_ok_iff.mp h
    exact map_eq_ok_iff.mpr ⟨d, traverse_of_imp hfg operand hd, rfl⟩
  | leaf a =>
    obtain ⟨b, hb, rfl⟩ := map_eq_ok_iff.mp h
    exact map_eq_ok_iff.mpr ⟨b, hfg a b hb, rfl⟩

theorem traverseList_of_imp {f g : α → Except ε β} (hfg : ∀ a b, f a = .ok b → g a = .ok b)
    (es : List (Expr α)) {es' : List (Expr β)} (h : traverseList f es = .ok es') :
    traverseList g es = .ok es' := by
  match es with
  | [] => exact h
  | e :: es =>
    obtain ⟨d, ds, hd, hds, rfl⟩ := traverseList_cons_eq_ok_iff.mp h
    exact traverseList_cons_eq_ok_iff.mpr
      ⟨d, ds, traverse_of_imp hfg e hd, traverseList_of_imp hfg es hds, rfl⟩

end

/-! ## The form of an expression -/

mutual

/-- An expression without what its leaves hold. -/
def shape : Expr α → Expr Unit
  | all operands => all (shapeOfList operands)
  | any operands => any (shapeOfList operands)
  | not operand => not operand.shape
  | leaf _ => leaf ()

/-- Several expressions without what their leaves hold. -/
def shapeOfList : List (Expr α) → List (Expr Unit)
  | [] => []
  | e :: es => e.shape :: shapeOfList es

end

mutual

/-- Replacing leaves leaves the form of an expression as it is. -/
theorem shape_of_traverse {f : α → Except ε β} (e : Expr α) {e' : Expr β}
    (h : e.traverse f = .ok e') : e'.shape = e.shape := by
  match e with
  | all operands | any operands =>
    obtain ⟨es, hes, rfl⟩ := map_eq_ok_iff.mp h
    rw [shape, shape, shapeOfList_of_traverseList operands hes]
  | not operand =>
    obtain ⟨d, hd, rfl⟩ := map_eq_ok_iff.mp h
    rw [shape, shape, shape_of_traverse operand hd]
  | leaf a =>
    obtain ⟨b, -, rfl⟩ := map_eq_ok_iff.mp h
    rw [shape, shape]

theorem shapeOfList_of_traverseList {f : α → Except ε β} (es : List (Expr α))
    {es' : List (Expr β)} (h : traverseList f es = .ok es') :
    shapeOfList es' = shapeOfList es := by
  match es with
  | [] =>
    cases h
    rfl
  | e :: es =>
    obtain ⟨d, ds, hd, hds, rfl⟩ := traverseList_cons_eq_ok_iff.mp h
    rw [shapeOfList, shapeOfList, shape_of_traverse e hd, shapeOfList_of_traverseList es hds]

end

mutual

/-- Read from left to right, the new leaves are what the old ones are replaced by. -/
theorem forall₂_leaves_of_traverse {f : α → Except ε β} (e : Expr α) {e' : Expr β}
    (h : e.traverse f = .ok e') : List.Forall₂ (fun a b ↦ f a = .ok b) e.leaves e'.leaves := by
  match e with
  | all operands | any operands =>
    obtain ⟨es, hes, rfl⟩ := map_eq_ok_iff.mp h
    exact forall₂_leavesOfList_of_traverseList operands hes
  | not operand =>
    obtain ⟨d, hd, rfl⟩ := map_eq_ok_iff.mp h
    rw [leaves, leaves]
    exact forall₂_leaves_of_traverse operand hd
  | leaf a =>
    obtain ⟨b, hb, rfl⟩ := map_eq_ok_iff.mp h
    exact .cons hb .nil

theorem forall₂_leavesOfList_of_traverseList {f : α → Except ε β} (es : List (Expr α))
    {es' : List (Expr β)} (h : traverseList f es = .ok es') :
    List.Forall₂ (fun a b ↦ f a = .ok b) (leavesOfList es) (leavesOfList es') := by
  match es with
  | [] =>
    cases h
    exact .nil
  | e :: es =>
    obtain ⟨d, ds, hd, hds, rfl⟩ := traverseList_cons_eq_ok_iff.mp h
    exact List.rel_append (forall₂_leaves_of_traverse e hd)
      (forall₂_leavesOfList_of_traverseList es hds)

end

mutual

/-- Replaced leaves that give the same answers leave the answer as it was, and all that was looked
at on the way. -/
theorem evaluate_of_traverse {f : α → Except ε β} {p : α → Traced Bool} {q : β → Traced Bool}
    (hpq : ∀ a b, f a = .ok b → p a = q b) (e : Expr α) {e' : Expr β}
    (h : e.traverse f = .ok e') : e'.evaluate q = e.evaluate p := by
  match e with
  | all operands =>
    obtain ⟨es, hes, rfl⟩ := map_eq_ok_iff.mp h
    exact evaluateAll_of_traverseList hpq operands hes
  | any operands =>
    obtain ⟨es, hes, rfl⟩ := map_eq_ok_iff.mp h
    exact evaluateAny_of_traverseList hpq operands hes
  | not operand =>
    obtain ⟨e', he', rfl⟩ := map_eq_ok_iff.mp h
    rw [evaluate, evaluate, evaluate_of_traverse hpq operand he']
  | leaf a =>
    obtain ⟨b, hb, rfl⟩ := map_eq_ok_iff.mp h
    exact (hpq a b hb).symm

theorem evaluateAll_of_traverseList {f : α → Except ε β} {p : α → Traced Bool}
    {q : β → Traced Bool} (hpq : ∀ a b, f a = .ok b → p a = q b) (es : List (Expr α))
    {es' : List (Expr β)} (h : traverseList f es = .ok es') :
    evaluateAll q es' = evaluateAll p es := by
  match es with
  | [] =>
    cases h
    rfl
  | e :: es =>
    obtain ⟨e', es', he, hes, rfl⟩ := traverseList_cons_eq_ok_iff.mp h
    rw [evaluateAll, evaluateAll, evaluate_of_traverse hpq e he,
      evaluateAll_of_traverseList hpq es hes]

theorem evaluateAny_of_traverseList {f : α → Except ε β} {p : α → Traced Bool}
    {q : β → Traced Bool} (hpq : ∀ a b, f a = .ok b → p a = q b) (es : List (Expr α))
    {es' : List (Expr β)} (h : traverseList f es = .ok es') :
    evaluateAny q es' = evaluateAny p es := by
  match es with
  | [] =>
    cases h
    rfl
  | e :: es =>
    obtain ⟨e', es', he, hes, rfl⟩ := traverseList_cons_eq_ok_iff.mp h
    rw [evaluateAny, evaluateAny, evaluate_of_traverse hpq e he,
      evaluateAny_of_traverseList hpq es hes]

end

/-! ## Walking over the leaves -/

/-- A leaf occurs in an expression. -/
inductive HasLeaf (a : α) : Expr α → Prop where
  | all {e es} (he : e ∈ es) (h : HasLeaf a e) : HasLeaf a (all es)
  | any {e es} (he : e ∈ es) (h : HasLeaf a e) : HasLeaf a (any es)
  | not {e} (h : HasLeaf a e) : HasLeaf a (not e)
  | leaf : HasLeaf a (leaf a)

theorem mem_leavesOfList_iff {a : α} {es : List (Expr α)} :
    a ∈ leavesOfList es ↔ ∃ e ∈ es, a ∈ e.leaves := by
  induction es with
  | nil => exact ⟨nofun, nofun⟩
  | cons e es ih => simp [leavesOfList, ih]

mutual

theorem hasLeaf_of_mem {a : α} (e : Expr α) (h : a ∈ e.leaves) : e.HasLeaf a := by
  match e with
  | all operands =>
    obtain ⟨e, he, ha⟩ := exists_hasLeaf_of_mem operands h
    exact .all he ha
  | any operands =>
    obtain ⟨e, he, ha⟩ := exists_hasLeaf_of_mem operands h
    exact .any he ha
  | not operand => exact .not (hasLeaf_of_mem operand h)
  | leaf b =>
    rw [List.mem_singleton.mp h]
    exact .leaf

theorem exists_hasLeaf_of_mem {a : α} (es : List (Expr α)) (h : a ∈ leavesOfList es) :
    ∃ e ∈ es, e.HasLeaf a := by
  match es with
  | e :: es =>
    rcases List.mem_append.mp h with he | hes
    · exact ⟨e, List.mem_cons_self, hasLeaf_of_mem e he⟩
    · obtain ⟨d, hd, ha⟩ := exists_hasLeaf_of_mem es hes
      exact ⟨d, List.mem_cons_of_mem e hd, ha⟩

end

/-- The walk over the leaves leaves none out. -/
theorem mem_leaves_iff {a : α} {e : Expr α} : a ∈ e.leaves ↔ e.HasLeaf a := by
  refine ⟨hasLeaf_of_mem e, fun h ↦ ?_⟩
  induction h with
  | all he _ ih | any he _ ih => exact mem_leavesOfList_iff.mpr ⟨_, he, ih⟩
  | not _ ih => exact ih
  | leaf => exact List.mem_singleton.mpr rfl

mutual

/-- The leaves of an expression with leaves replaced are the replacements. -/
theorem mem_leaves_of_traverse {f : α → Except ε β} (e : Expr α) {e' : Expr β}
    (h : e.traverse f = .ok e') {b : β} : b ∈ e'.leaves ↔ ∃ a ∈ e.leaves, f a = .ok b := by
  match e with
  | all operands | any operands =>
    obtain ⟨es, hes, rfl⟩ := map_eq_ok_iff.mp h
    exact mem_leavesOfList_of_traverseList operands hes
  | not operand =>
    obtain ⟨d, hd, rfl⟩ := map_eq_ok_iff.mp h
    exact mem_leaves_of_traverse operand hd
  | leaf a =>
    obtain ⟨c, hc, rfl⟩ := map_eq_ok_iff.mp h
    simp only [leaves, List.mem_singleton, exists_eq_left, hc, Except.ok.injEq]
    exact eq_comm

theorem mem_leavesOfList_of_traverseList {f : α → Except ε β} (es : List (Expr α))
    {es' : List (Expr β)} (h : traverseList f es = .ok es') {b : β} :
    b ∈ leavesOfList es' ↔ ∃ a ∈ leavesOfList es, f a = .ok b := by
  match es with
  | [] =>
    cases h
    exact ⟨nofun, nofun⟩
  | e :: es =>
    obtain ⟨d, ds, hd, hds, rfl⟩ := traverseList_cons_eq_ok_iff.mp h
    rw [leavesOfList, leavesOfList, List.mem_append, mem_leaves_of_traverse e hd,
      mem_leavesOfList_of_traverseList es hds]
    simp only [List.mem_append, or_and_right, exists_or]

end

/-! ## Chains -/

theorem leavesOfList_append (es fs : List (Expr α)) :
    leavesOfList (es ++ fs) = leavesOfList es ++ leavesOfList fs := by
  induction es with
  | nil => rfl
  | cons e es ih => rw [List.cons_append, leavesOfList, leavesOfList, ih, List.append_assoc]

theorem leavesOfList_disjuncts (e : Expr α) : leavesOfList e.disjuncts = e.leaves := by
  cases e <;> simp [disjuncts, leavesOfList, leaves]

theorem leavesOfList_conjuncts (e : Expr α) : leavesOfList e.conjuncts = e.leaves := by
  cases e <;> simp [conjuncts, leavesOfList, leaves]

theorem leaves_anyOf (first : Expr α) (more : List (Expr α)) :
    (first.anyOf more).leaves = first.leaves ++ leavesOfList more := by
  cases more with
  | nil => rw [anyOf, leavesOfList, List.append_nil]
  | cons e more =>
    change leavesOfList (first.disjuncts ++ e :: more) = _
    rw [leavesOfList_append, leavesOfList_disjuncts]

theorem leaves_allOf (first : Expr α) (more : List (Expr α)) :
    (first.allOf more).leaves = first.leaves ++ leavesOfList more := by
  cases more with
  | nil => rw [allOf, leavesOfList, List.append_nil]
  | cons e more =>
    change leavesOfList (first.conjuncts ++ e :: more) = _
    rw [leavesOfList_append, leavesOfList_conjuncts]

/-- Flattening a chain of *or* does not change when it holds. -/
theorem holds_anyOf (p : α → Bool) (first : Expr α) (more : List (Expr α)) :
    (first.anyOf more).holds p = (first.holds p || anyHolds p more) := by
  rw [← foldl_or]
  induction more generalizing first with
  | nil => rw [anyHolds, Bool.or_false, List.foldl_nil]
  | cons e more ih => rw [List.foldl_cons, ih, holds_or, anyHolds, Bool.or_assoc]

/-- Flattening a chain of *and* does not change when it holds. -/
theorem holds_allOf (p : α → Bool) (first : Expr α) (more : List (Expr α)) :
    (first.allOf more).holds p = (first.holds p && allHold p more) := by
  rw [← foldl_and]
  induction more generalizing first with
  | nil => rw [allHold, Bool.and_true, List.foldl_nil]
  | cons e more ih => rw [List.foldl_cons, ih, holds_and, allHold, Bool.and_assoc]

end TagQuery.Query.Expr
