import TagQuery.Filter.Basic

/-!
# Filtering lazily

A *sequence* hands out its items one at a time, and may know bounds on how many are still to come.
A filtered sequence keeps the sequence that it filters inside and is a sequence itself: asked for an
item, it reads up to the next one that its filter accepts and no further.

The sequences here are finite, although they need not know their length. What a finite sequence
still has to hand out is a list, and one step takes the first item off this list.
-/

namespace TagQuery

/-- What hands out items one at a time. -/
class Sequence (σ : Type) (ε : outParam Type) where
  /-- The next item, if there is one, and what comes after it. -/
  next : σ → Option ε × σ
  /-- A lower bound on the number of items to come and, if one is known, an upper bound. -/
  bounds : σ → Nat × Option Nat

/-- A sequence of finitely many items, which hands out nothing after the last one. -/
class FiniteSequence (σ : Type) (ε : outParam Type) extends Sequence σ ε where
  /-- The items to come. -/
  toList : σ → List ε
  next_fst (s : σ) : (next s).1 = (toList s).head?
  toList_next (s : σ) : toList (next s).2 = (toList s).tail

/-- A sequence that can be walked a second time from wherever it is. -/
class Copyable (σ : Type) {ε : outParam Type} [FiniteSequence σ ε] where
  copy : σ → σ
  toList_copy (s : σ) : FiniteSequence.toList (copy s) = FiniteSequence.toList s

open Sequence FiniteSequence Copyable

namespace Sequence

section Walking

variable {σ ε : Type} [FiniteSequence σ ε] {s rest : σ} {e : ε}

theorem toList_of_next_some (h : next s = (some e, rest)) : toList s = e :: toList rest := by
  have hhead := next_fst s
  have htail := toList_next s
  rw [h] at hhead htail
  obtain ⟨es, hes⟩ := List.head?_eq_some_iff.mp hhead.symm
  rw [hes] at htail
  rw [hes, htail, List.tail_cons]

theorem toList_of_next_none (h : next s = (none, rest)) : toList s = [] ∧ toList rest = [] := by
  have hhead := next_fst s
  have htail := toList_next s
  rw [h] at hhead htail
  have hnil : toList s = [] := List.head?_eq_none_iff.mp hhead.symm
  rw [hnil] at htail
  exact ⟨hnil, htail⟩

/-- All items to come, in their order. -/
def collect (s : σ) : List ε :=
  match _h : next s with
  | (none, _) => []
  | (some e, rest) => e :: collect rest
termination_by (toList s).length
decreasing_by rw [toList_of_next_some _h]; exact Nat.lt_succ_self _

/-- The first `n` items, or all if there are fewer, and what comes after them. -/
def pull : Nat → σ → List ε × σ
  | 0, s => ([], s)
  | n + 1, s =>
    match next s with
    | (none, rest) => ([], rest)
    | (some e, rest) =>
      let (taken, rest) := pull n rest
      (e :: taken, rest)

/-- The first item that passes a test, and what comes after it. -/
def find (p : ε → Bool) (s : σ) : Option ε × σ :=
  match _h : next s with
  | (none, rest) => (none, rest)
  | (some e, rest) => if p e then (some e, rest) else find p rest
termination_by (toList s).length
decreasing_by rw [toList_of_next_some _h]; exact Nat.lt_succ_self _

end Walking

end Sequence

/-! ## Lists -/

instance {ε : Type} : FiniteSequence (List ε) ε where
  next
    | [] => (none, [])
    | e :: es => (some e, es)
  bounds es := (es.length, some es.length)
  toList es := es
  next_fst es := by cases es <;> rfl
  toList_next es := by cases es <;> rfl

instance {ε : Type} : Copyable (List ε) := ⟨id, fun _ ↦ rfl⟩

/-! ## What a search comes to -/

/-- What a search in a list may come to: an item that passes, with none before it, and the items
after it; or nothing, with nothing left. -/
inductive Finds {ε : Type} (p : ε → Bool) : List ε → Option ε → List ε → Prop where
  | found {skipped rest : List ε} {e : ε} (hskipped : ∀ x ∈ skipped, p x = false)
      (he : p e = true) : Finds p (skipped ++ e :: rest) (some e) rest
  | missed {all : List ε} (hall : ∀ x ∈ all, p x = false) : Finds p all none []

namespace Finds

variable {ε : Type} {p : ε → Bool} {all rest : List ε} {found : Option ε}

theorem skip {e : ε} (he : p e = false) (h : Finds p all found rest) :
    Finds p (e :: all) found rest := by
  cases h with
  | found hskipped hfound =>
    rw [← List.cons_append]
    exact .found (List.forall_mem_cons.mpr ⟨he, hskipped⟩) hfound
  | missed hall => exact .missed (List.forall_mem_cons.mpr ⟨he, hall⟩)

theorem filter_eq (h : Finds p all found rest) :
    all.filter p = found.toList ++ rest.filter p := by
  cases h with
  | found hskipped he =>
    rw [List.filter_append, List.filter_eq_nil_iff.mpr (by simpa using hskipped),
      List.filter_cons_of_pos he]
    rfl
  | missed hall =>
    rw [List.filter_eq_nil_iff.mpr (by simpa using hall)]
    rfl

theorem head?_filter (h : Finds p all found rest) : (all.filter p).head? = found := by
  rw [h.filter_eq]
  cases h <;> rfl

theorem tail_filter (h : Finds p all found rest) : (all.filter p).tail = rest.filter p := by
  rw [h.filter_eq]
  cases h <;> rfl

end Finds

theorem Sequence.finds_find {σ ε : Type} [FiniteSequence σ ε] (p : ε → Bool) (s : σ) :
    Finds p (toList s) (find p s).1 (toList (find p s).2) := by
  fun_induction find p s with
  | case1 s rest h =>
    obtain ⟨hnil, hrest⟩ := toList_of_next_none h
    rw [hnil, hrest]
    exact .missed (List.forall_mem_nil _)
  | case2 s e rest h he =>
    rw [toList_of_next_some h]
    exact @Finds.found _ _ [] _ _ (List.forall_mem_nil _) he
  | case3 s e rest h he ih =>
    rw [toList_of_next_some h]
    exact ih.skip (Bool.eq_false_iff.mpr he)

/-! ## Filtered sequences -/

/-- A sequence of which a filter keeps the items that it accepts on a given day. -/
structure Filtered (σ : Type) where
  filter : Filter
  inner : σ
  today : Date

/-- The items of a sequence that a filter accepts on a given day. -/
def Filter.filterAt {σ : Type} (f : Filter) (s : σ) (today : Date) : Filtered σ := ⟨f, s, today⟩

/-- The items of a sequence that a filter accepts on the day that the clock shows before the first
of them is read. -/
def Filter.filterNow {m : Type → Type} [Monad m] {σ : Type} (f : Filter) (clock : m Date) (s : σ) :
    m (Filtered σ) := do
  return f.filterAt s (← f.clockDate clock)

namespace Filtered

variable {σ ε : Type} [FiniteSequence σ ε] [ElementView ε]

/-- Whether an item is kept. -/
def keeps (w : Filtered σ) (e : ε) : Bool := w.filter.accepts w.today e

instance : FiniteSequence (Filtered σ) ε where
  next w :=
    let (found, rest) := find w.keeps w.inner
    (found, { w with inner := rest })
  bounds w := (0, (bounds w.inner).2)
  toList w := (toList w.inner).filter w.keeps
  next_fst w := (finds_find w.keeps w.inner).head?_filter.symm
  toList_next w := (finds_find w.keeps w.inner).tail_filter.symm

instance [Copyable σ] : Copyable (Filtered σ) where
  copy w := { w with inner := copy w.inner }
  toList_copy w := congrArg (List.filter w.keeps) (toList_copy w.inner)

end Filtered

theorem Filter.next_filterAt {σ ε : Type} [FiniteSequence σ ε] [ElementView ε] (f : Filter) (s : σ)
    (today : Date) :
    next (f.filterAt s today) =
      ((find (f.accepts today) s).1, f.filterAt (find (f.accepts today) s).2 today) := rfl

end TagQuery
