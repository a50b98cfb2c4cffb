import TagQuery.Filter.Lazy

/-!
# What lazy filters read

Walked to its end, a filtered sequence gives what filtering the list of all items would give. That
it reads no item too early and loses none between two steps shows only in what is left of the
sequence inside after each step.

The items that one step reads are those up to the next accepted one (`Finds`), so by induction on
the number of steps what has been read is the shortest part of the input with so many accepted items
(`IsRead`), and the filter and the day are as they were. So whatever holds of a walk from its start
holds again from where it has got to (`pull_filterAt`).
-/

namespace TagQuery

open Sequence FiniteSequence Copyable

/-! ## Walks of finite sequences -/

namespace Sequence

variable {σ ε : Type} [FiniteSequence σ ε]

theorem collect_eq_toList (s : σ) : collect s = toList s := by
  fun_induction collect s with
  | case1 s rest h => exact (toList_of_next_none h).1.symm
  | case2 s e rest h ih => rw [toList_of_next_some h, ih]

/-- Taking items off a sequence takes them off the list of those to come. -/
theorem pull_eq_take (n : Nat) (s : σ) :
    (pull n s).1 = (toList s).take n ∧ toList (pull n s).2 = (toList s).drop n := by
  induction n generalizing s with
  | zero => exact ⟨rfl, rfl⟩
  | succ n ih =>
    rw [pull]
    split
    · next rest h =>
      obtain ⟨hnil, hrest⟩ := toList_of_next_none h
      rw [hnil]
      exact ⟨rfl, hrest⟩
    · next e rest h =>
      rw [toList_of_next_some h]
      exact ⟨congrArg (e :: ·) (ih rest).1, (ih rest).2⟩

/-- The upper bound of a sequence, if it gives one, is not exceeded by the items to come. -/
def UpperBoundHolds (s : σ) : Prop := ∀ bound ∈ (bounds s).2, (collect s).length ≤ bound

end Sequence

/-! ## What has to be read -/

/-- What has to be read of a list for its first `n` items that pass: the shortest beginning with so
many of them, and everything if there are fewer. -/
structure IsRead {ε : Type} (p : ε → Bool) (n : Nat) (all read : List ε) : Prop where
  countP_eq : n ≤ all.countP p → read.countP p = n
  shortest : ∀ start, start <+: all → n ≤ start.countP p → read <+: start
  eq_all : all.countP p < n → read = all

namespace IsRead

variable {ε : Type} {p : ε → Bool} {n : Nat} {skipped all read : List ε} {e : ε}

theorem zero (all : List ε) : IsRead p 0 all [] where
  countP_eq _ := rfl
  shortest _ _ _ := List.nil_prefix
  eq_all h := absurd h (Nat.not_lt_zero _)

/-- Everything is read if nothing passes. -/
theorem all_of_forall (h : ∀ x ∈ all, p x = false) : IsRead p (n + 1) all all := by
  have hnone : ∀ start, start <+: all → start.countP p = 0 := fun start hstart ↦
    List.countP_eq_zero.mpr fun x hx ↦ Bool.eq_false_iff.mp (h x (hstart.subset hx))
  refine ⟨fun hle ↦ ?_, fun start hstart hle ↦ ?_, fun _ ↦ rfl⟩
  · rw [hnone all List.prefix_rfl] at hle
    contradiction
  · rw [hnone start hstart] at hle
    contradiction

/-- One more item is found by reading up to it. -/
theorem succ (hskipped : ∀ x ∈ skipped, p x = false) (he : p e = true) (h : IsRead p n all read) :
    IsRead p (n + 1) (skipped ++ e :: all) (skipped ++ e :: read) := by
  have hzero : skipped.countP p = 0 :=
    List.countP_eq_zero.mpr fun x hx ↦ Bool.eq_false_iff.mp (hskipped x hx)
  have hcount : ∀ es, (skipped ++ e :: es).countP p = es.countP p + 1 := fun es ↦ by
    rw [List.countP_append, hzero, List.countP_cons_of_pos he, Nat.zero_add]
  refine ⟨fun hle ↦ ?_, fun start hstart hle ↦ ?_, fun hlt ↦ ?_⟩
  · rw [hcount] at hle ⊢
    rw [h.countP_eq (Nat.le_of_succ_le_succ hle)]
  · -- a beginning with an item that passes reaches beyond those that do not
    rcases List.prefix_or_prefix_of_prefix hstart (List.prefix_append skipped _) with
      hshort | ⟨start, rfl⟩
    · have hle' := hshort.countP_le (p := p)
      omega
    rw [List.countP_append, hzero, Nat.zero_add] at hle
    rw [List.prefix_append_right_inj] at hstart ⊢
    cases start with
    | nil => contradiction
    | cons x start =>
      obtain ⟨rfl, htail⟩ := List.cons_prefix_cons.mp hstart
      rw [List.countP_cons_of_pos he] at hle
      have hread := h.shortest start htail (Nat.le_of_succ_le_succ hle)
      exact List.cons_prefix_cons.mpr ⟨rfl, hread⟩
  · rw [hcount] at hlt
    rw [h.eq_all (Nat.lt_of_succ_lt_succ hlt)]

end IsRead

/-! ## Filtered sequences -/

namespace Filtered

variable {σ ε : Type} [FiniteSequence σ ε] [ElementView ε]

/-- What a step can do: it reads everything and finds nothing, or it reads up to an item. -/
theorem next_cases (w : Filtered σ) :
    (∃ rest, next w = (none, { w with inner := rest }) ∧ toList rest = [] ∧
      ∀ x ∈ toList w.inner, w.keeps x = false) ∨
    ∃ skipped e rest, next w = (some e, { w with inner := rest }) ∧
      toList w.inner = skipped ++ e :: toList rest ∧ (∀ x ∈ skipped, w.keeps x = false) ∧
      w.keeps e = true := by
  have hfinds := finds_find w.keeps w.inner
  have hnext : next w =
      ((find w.keeps w.inner).1, { w with inner := (find w.keeps w.inner).2 }) := rfl
  rw [hnext]
  generalize find w.keeps w.inner = result at hfinds
  obtain ⟨found, rest⟩ := result
  generalize hall : toList w.inner = all at hfinds
  generalize hafter : toList rest = after at hfinds
  cases hfinds with
  | missed hnone => exact .inl ⟨rest, rfl, hafter, hnone⟩
  | found hskipped he => exact .inr ⟨_, _, rest, rfl, hafter ▸ rfl, hskipped, he⟩

/-- Taking items moves the sequence inside, and only as far as it has to be read. -/
theorem exists_pull (n : Nat) (w : Filtered σ) : ∃ read rest,
    (pull n w).2 = { w with inner := rest } ∧ toList w.inner = read ++ toList rest ∧
      IsRead w.keeps n (toList w.inner) read := by
  induction n generalizing w with
  | zero => exact ⟨[], w.inner, rfl, rfl, .zero _⟩
  | succ n ih =>
    rw [pull]
    rcases next_cases w with ⟨rest, hnext, hend, hnone⟩ | ⟨skipped, e, rest, hnext, hall, hskip, he⟩
    · rw [hnext]
      exact ⟨_, rest, rfl, by rw [hend, List.append_nil], .all_of_forall hnone⟩
    · obtain ⟨read, rest', hpull, hread, hleast⟩ := ih { w with inner := rest }
      dsimp only at hread hleast
      rw [hnext, hall]
      refine ⟨skipped ++ e :: read, rest', hpull, ?_, hleast.succ hskip he⟩
      rw [hread, List.append_assoc, List.cons_append]

end Filtered

namespace Filter

variable {σ ε : Type} [FiniteSequence σ ε] [ElementView ε]

theorem collect_filterAt (f : Filter) (s : σ) (today : Date) :
    collect (f.filterAt s today) = (collect s).filter (f.accepts today) := by
  rw [collect_eq_toList, collect_eq_toList]
  rfl

/-- **A lazy filter is the filter of lists, and reads as little as it can.** The first `n` items
that it gives are the first `n` accepted ones, and by then it has read the shortest beginning of the
sequence with so many of them, or all of the sequence if there are fewer. What it has not read is
filtered next, so it gives the other accepted items then; a copy of it gives all of them. Its bounds
on the number of items to come hold wherever the upper bound of the filtered sequence does. -/
theorem pull_filterAt (f : Filter) (s : σ) (today : Date) (n : Nat) : ∃ read rest,
    pull n (f.filterAt s today) =
      (((collect s).filter (f.accepts today)).take n, f.filterAt rest today) ∧
    collect s = read ++ collect rest ∧
    IsRead (f.accepts today) n (collect s) read ∧
    collect (f.filterAt rest today) = ((collect s).filter (f.accepts today)).drop n ∧
    (∀ [Copyable σ],
      collect (copy (f.filterAt s today)) = (collect s).filter (f.accepts today)) ∧
    (UpperBoundHolds rest →
      (bounds (f.filterAt rest today)).1 ≤ (collect (f.filterAt rest today)).length ∧
        UpperBoundHolds (f.filterAt rest today)) := by
  obtain ⟨read, rest, hpull, hread, hleast⟩ := Filtered.exists_pull n (f.filterAt s today)
  obtain ⟨htaken, hleft⟩ := pull_eq_take n (f.filterAt s today)
  rw [hpull] at hleft
  refine ⟨read, rest, Prod.ext ?_ hpull, ?_, ?_, ?_, ?_, ?_⟩
  · rw [htaken, ← collect_eq_toList, collect_filterAt]
  · rwa [collect_eq_toList, collect_eq_toList]
  · rwa [collect_eq_toList]
  · rw [← collect_filterAt, collect_eq_toList, collect_eq_toList]
    exact hleft
  · intro _
    rw [collect_eq_toList, toList_copy, ← collect_eq_toList, collect_filterAt]
  · intro hupper
    refine ⟨Nat.zero_le _, fun bound hbound ↦ ?_⟩
    rw [collect_filterAt]
    exact Nat.le_trans (List.length_filter_le _ _) (hupper bound hbound)

/-- The first shop is given after two of four items have been read. The other shop is no node, but
for all that the filter knows two items may still come. -/
theorem pull_filterAt_shops :
    let shops : Filter :=
      ⟨"nodes with shop", .ofList [.node], some (.leaf (.hasKey "shop")), .standard⟩
    let element (kind : Kind) (id : Int64) (key : String) : Element :=
      ⟨kind, id, .ofList [(key, "yes")], none⟩
    let name := element .node 1 "name"
    let bakery := element .node 2 "shop"
    let others := [element .way 3 "shop", element .node 4 "bench"]
    pull 1 (shops.filterAt (name :: bakery :: others) .first) =
        ([bakery], shops.filterAt others .first) ∧
      bounds (shops.filterAt others .first) = (0, some 2) ∧
      UpperBoundHolds (shops.filterAt others .first) := by
  intro shops element name bakery others
  let all := name :: bakery :: others
  have hall : collect all = all := collect_eq_toList all
  obtain ⟨read, rest, hpull, hread, hleast, -, -, hbounds⟩ := pull_filterAt shops all .first 1
  rw [hall] at hpull hread hleast
  have hone : read.countP (shops.accepts .first) = 1 := hleast.countP_eq (by decide)
  have hread' : read = [name, bakery] := by
    have hstart : [name, bakery] <+: all := ⟨others, rfl⟩
    have hread' : read <+: [name] ++ [bakery] := hleast.shortest _ hstart (by decide)
    rcases List.prefix_concat_iff.mp hread' with heq | hshort
    · exact heq
    · have hle := hshort.countP_le (p := shops.accepts .first)
      rw [hone] at hle
      exact absurd hle (by decide)
  obtain rfl : others = rest := by
    rw [hread', collect_eq_toList] at hread
    exact (List.cons.inj (List.cons.inj hread).2).2
  refine ⟨hpull, rfl, (hbounds fun bound hbound ↦ ?_).2⟩
  obtain rfl := Option.some.inj hbound
  rw [collect_eq_toList]
  exact Nat.le_refl _

end Filter

end TagQuery
