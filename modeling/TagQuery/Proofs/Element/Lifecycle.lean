import TagQuery.Proofs.Filter.Lookups

/-!
# What a lifecycle view shows

The view of an element has the tags of the element with the marked keys renamed, and filters cannot
tell it from a stored element with these tags (`LifecycleView.of_unmarked`). Which value a key
has in the view is said here key by key, by what the element has under the key and under the marked
one (`unmarked`), without mention of slots, sorting or searching.

## Why no key is lost

A view is asked by halving, which misses keys unless they ascend strictly. They do because no key
gets into the slots twice. Two marked keys cannot stand for the same key, since a key and the prefix
determine the marked key; and an unmarked key stays out if a marked one stands for it, which the
search among the sorted marked ones finds out although other slots are filled behind them meanwhile.
-/

namespace TagQuery

namespace Lifecycle

/-! ## Marked keys -/

/-- Whether a key consists of a prefix, a colon and at least one more character. -/
def IsMarked (lifecycle key : String) : Prop :=
  ∃ rest, rest ≠ "" ∧ key = lifecycle ++ ":" ++ rest

theorem isSome_strip?_iff {lifecycle key : String} :
    (strip? lifecycle key).isSome ↔ IsMarked lifecycle key := by
  rw [Option.isSome_iff_exists]
  exact exists_congr fun _ ↦ strip?_eq_some_iff

instance (lifecycle key : String) : Decidable (IsMarked lifecycle key) :=
  decidable_of_iff _ isSome_strip?_iff

/-- The value of a key outside the state that a prefix marks, given the values that keys have in
it. -/
def unmarked (lifecycle : String) (tag? : String → Option String) (key : String) : Option String :=
  if key ≠ "" ∧ (tag? (lifecycle ++ ":" ++ key)).isSome then tag? (lifecycle ++ ":" ++ key)
  else if IsMarked lifecycle key then none
  else tag? key

/-! ## The tags of the view -/

variable {ε : Type} [ElementView ε] [LawfulTagView ε] {lifecycle key value : String} {e : ε}

theorem mem_strippedTags_iff :
    (key, value) ∈ strippedTags lifecycle (TagView.tags e) ↔
      key ≠ "" ∧ TagView.tag? e (lifecycle ++ ":" ++ key) = some value := by
  rw [mem_strippedTags, LawfulTagView.tag?_eq_some_iff]

theorem mem_keys_strippedTags_iff :
    key ∈ (strippedTags lifecycle (TagView.tags e)).map Prod.fst ↔
      key ≠ "" ∧ (TagView.tag? e (lifecycle ++ ":" ++ key)).isSome := by
  rw [List.mem_map, Option.isSome_iff_exists]
  constructor
  · rintro ⟨⟨key, value⟩, hmem, rfl⟩
    obtain ⟨hne, hvalue⟩ := mem_strippedTags_iff.mp hmem
    exact ⟨hne, value, hvalue⟩
  · rintro ⟨hne, value, hvalue⟩
    exact ⟨(key, value), mem_strippedTags_iff.mpr ⟨hne, hvalue⟩, rfl⟩

theorem mem_plainTags_iff :
    (key, value) ∈ plainTags lifecycle (TagView.tags e) ↔
      ¬ IsMarked lifecycle key ∧ TagView.tag? e key = some value := by
  rw [mem_plainTags, LawfulTagView.tag?_eq_some_iff, ← isSome_strip?_iff, and_comm,
    Option.not_isSome_iff_eq_none]

/-- **The slots have the tags of the element with marked keys renamed.** -/
theorem mem_slots_iff :
    (key, value) ∈ (slots lifecycle (TagView.tags e)).toList ↔
      unmarked lifecycle (TagView.tag? e) key = some value := by
  rw [mem_slots (LawfulTagView.unique e), mem_strippedTags_iff, mem_plainTags_iff,
    mem_keys_strippedTags_iff, unmarked]
  -- the cases of `unmarked`: a marked key stands for this one, it is marked itself, or neither
  split
  · next hmarked =>
    constructor
    · rintro (⟨-, hvalue⟩ | ⟨-, hfree⟩)
      · exact hvalue
      · exact absurd hmarked hfree
    · intro hvalue
      exact .inl ⟨hmarked.1, hvalue⟩
  · next hfree =>
    split
    · next hkey =>
      constructor
      · rintro (⟨hne, hvalue⟩ | ⟨⟨hplain, -⟩, -⟩)
        · exact absurd ⟨hne, by rw [hvalue, Option.isSome_some]⟩ hfree
        · exact absurd hkey hplain
      · exact nofun
    · next hkey =>
      constructor
      · rintro (⟨hne, hvalue⟩ | ⟨⟨-, hvalue⟩, -⟩)
        · exact absurd ⟨hne, by rw [hvalue, Option.isSome_some]⟩ hfree
        · exact hvalue
      · intro hvalue
        exact .inr ⟨⟨hkey, hvalue⟩, hfree⟩

end Lifecycle

/-! ## The view -/

namespace LifecycleView

open Lifecycle

variable {ε : Type} [ElementView ε]

/-- A view as an element of its own. -/
def toElement (view : LifecycleView ε) : Element := ⟨view.kind, view.id, view.tags, view.stamp⟩

theorem get?_toElement (view : LifecycleView ε) (key : String) :
    view.toElement.tags.get? key = TagView.tag? view key := by
  apply Option.ext
  intro value
  rw [LawfulTagView.tag?_eq_some_iff, ← Dictionary.mem_entries_iff]
  rfl

variable [LawfulTagView ε]

theorem tag?_of (lifecycle : String) (e : ε) (key : String) :
    TagView.tag? (of lifecycle e) key = unmarked lifecycle (TagView.tag? e) key := by
  apply Option.ext
  intro value
  rw [LawfulTagView.tag?_eq_some_iff]
  exact mem_slots_iff

theorem stripped_of (lifecycle : String) (e : ε) :
    (of lifecycle e).stripped = (TagView.tags e).countP fun tag ↦ IsMarked lifecycle tag.1 := by
  have hcount : (of lifecycle e).stripped = (strippedTags lifecycle (TagView.tags e)).length := rfl
  rw [hcount, strippedTags, List.length_filterMap_eq_countP]
  refine List.countP_congr fun tag _ ↦ ?_
  rw [Option.isSome_map, isSome_strip?_iff, decide_eq_true_iff]

theorem of?_eq_some_iff {lifecycle : String} {e : ε} {view : LifecycleView ε} :
    of? lifecycle e = some view ↔ 0 < (of lifecycle e).stripped ∧ view = of lifecycle e := by
  rw [of?, Option.ite_none_right_eq_some, Option.some.injEq, eq_comm (a := view)]

/-- **A view shows the element with its marked keys renamed.** Its tags ascend by their keys; a key
has the value of the marked key that stands for it, or else its own unless it is marked itself; all
tags in turn are those that are found by their keys; and there is something to see for those who
ask whether the element is in the state just if some key is marked. A filter answers for the view
as it does for an element that stores these tags. -/
theorem of_unmarked (lifecycle : String) (e : ε) :
    ((TagView.tags (of lifecycle e)).Pairwise fun a b ↦ a.1 < b.1) ∧
    (∀ key, TagView.tag? (of lifecycle e) key = unmarked lifecycle (TagView.tag? e) key) ∧
    (∀ key value, (key, value) ∈ TagView.tags (of lifecycle e) ↔
      TagView.tag? (of lifecycle e) key = some value) ∧
    (of lifecycle e).stripped =
      (TagView.tags e).countP (fun tag ↦ IsMarked lifecycle tag.1) ∧
    (∀ view, of? lifecycle e = some view ↔
      0 < (of lifecycle e).stripped ∧ view = of lifecycle e) ∧
    (∃ o : Element, o.kind = ElementView.kind e ∧ o.id = ElementView.id e ∧
      o.stamp = ElementView.stamp e ∧
      ∀ key, o.tags.get? key = unmarked lifecycle (TagView.tag? e) key) ∧
    ∀ o : Element, o.kind = ElementView.kind e → o.stamp = ElementView.stamp e →
      (∀ key, o.tags.get? key = unmarked lifecycle (TagView.tag? e) key) →
      ∀ (f : Filter) (today : Date), f.accepts today (of lifecycle e) = f.accepts today o := by
  refine ⟨(of lifecycle e).tags.ascending, tag?_of lifecycle e, ?_, stripped_of lifecycle e,
    fun _ ↦ of?_eq_some_iff, ⟨(of lifecycle e).toElement, rfl, rfl, rfl, ?_⟩, ?_⟩
  · intro key value
    rw [LawfulTagView.tag?_eq_some_iff]
  · intro key
    rw [get?_toElement, tag?_of]
  · intro o hkind hstamp htag f today
    have htags : ∀ key, TagView.tag? (of lifecycle e) key = TagView.tag? o key := by
      intro key
      rw [tag?_of]
      exact (htag key).symm
    rw [Filter.accepts, Filter.accepts, f.examine_congr today hkind.symm hstamp.symm htags]

/-- The view of a disused shop whose shop was disused before: each marked key loses one prefix. -/
theorem of_unmarked_disused :
    let e : Element := ⟨.node, 1, .ofList [("disused:disused:shop", "bakery"),
      ("disused:shop", "kiosk"), ("shop", "vacant"), ("disused:", "yes")], none⟩
    TagView.tag? (LifecycleView.of "disused" e) "shop" = some "kiosk" ∧
      TagView.tag? (LifecycleView.of "disused" e) "disused:shop" = some "bakery" ∧
      TagView.tag? (LifecycleView.of "disused" e) "disused:disused:shop" = none ∧
      TagView.tag? (LifecycleView.of "disused" e) "disused:" = some "yes" ∧
      (LifecycleView.of "disused" e).stripped = 2 := by
  intro e
  obtain ⟨-, htag, -, hstripped, -⟩ := of_unmarked "disused" e
  rw [htag, htag, htag, htag, hstripped]
  decide

end LifecycleView

/-- An element is accepted for itself, or for its view if it has one. -/
theorem Filter.acceptsEither_iff {ε : Type} [ElementView ε] [LawfulTagView ε] (f : Filter)
    (today : Date) (lifecycle : Option String) (e : ε) :
    f.acceptsEither today lifecycle e = true ↔ f.accepts today e = true ∨
      ∃ prefixed, lifecycle = some prefixed ∧
        (∃ tag ∈ TagView.tags e, Lifecycle.IsMarked prefixed tag.1) ∧
        f.accepts today (LifecycleView.of prefixed e) = true := by
  have hmarked : ∀ prefixed, 0 < (LifecycleView.of prefixed e).stripped ↔
      ∃ tag ∈ TagView.tags e, Lifecycle.IsMarked prefixed tag.1 := by
    intro prefixed
    rw [LifecycleView.stripped_of, List.countP_pos_iff]
    simp only [decide_eq_true_iff]
  have hview : ∀ prefixed, f.acceptsView today prefixed e = true ↔
      0 < (LifecycleView.of prefixed e).stripped ∧
        f.accepts today (LifecycleView.of prefixed e) = true := by
    intro prefixed
    rw [acceptsView, Option.any_eq_true]
    simp only [LifecycleView.of?_eq_some_iff, and_assoc, exists_and_left, exists_eq_left]
  rw [acceptsEither, Bool.or_eq_true, Option.any_eq_true]
  simp only [hview, hmarked]

end TagQuery
