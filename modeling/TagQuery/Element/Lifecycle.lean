import TagQuery.Element.Slots
import TagQuery.Element.View

/-!
# Lifecycle prefixes

A feature that is out of use keeps its tags under prefixed keys: a disused bakery has
`disused:shop=bakery`. Seen as if it were not disused, it has the key `shop` with that value. In
this view a prefixed key counts as the part after the prefix and its colon, which must not be empty,
and takes the place of an unprefixed key of that name; all other keys stay as they are.

The view is built once and then asked often, so its tags are kept in slots in ascending order of
their keys. The prefixed ones come first and are sorted; the others follow, unless a search among
the first ones finds their keys taken; then all are sorted. A view can be asked whatever an element
can be asked.
-/

namespace TagQuery

/-- What remains of a text after another text at its start. -/
def dropPrefix? : List Char → List Char → Option (List Char)
  | [], cs => some cs
  | _ :: _, [] => none
  | d :: ds, c :: cs => if d = c then dropPrefix? ds cs else none

theorem dropPrefix?_eq_some_iff {ds cs rest : List Char} :
    dropPrefix? ds cs = some rest ↔ cs = ds ++ rest := by
  induction ds generalizing cs with
  | nil => simp [dropPrefix?]
  | cons d ds ih =>
    cases cs with
    | nil => simp [dropPrefix?]
    | cons c cs =>
      simp only [dropPrefix?, List.cons_append, List.cons.injEq]
      split
      · next h => simp [ih, h]
      · next h => simpa using fun e : c = d ↦ absurd e.symm h

namespace Lifecycle

/-! ## Prefixed keys -/

/-- The key that a prefixed key stands for. -/
def strip? (lifecycle key : String) : Option String := do
  let marked ← dropPrefix? lifecycle.toList key.toList
  let rest ← dropPrefix? [':'] marked
  if rest.isEmpty then none else some (.ofList rest)

theorem strip?_eq_some_iff {lifecycle key rest : String} :
    strip? lifecycle key = some rest ↔ rest ≠ "" ∧ key = lifecycle ++ ":" ++ rest := by
  have hkey : key = lifecycle ++ ":" ++ rest ↔
      key.toList = lifecycle.toList ++ ([':'] ++ rest.toList) := by
    rw [← String.toList_inj, String.toList_append, String.toList_append, List.append_assoc]
    rfl
  rw [hkey, strip?]
  simp only [Option.bind_eq_bind, Option.bind_eq_some_iff, dropPrefix?_eq_some_iff]
  constructor
  · rintro ⟨_, hmarked, cs, rfl, hrest⟩
    split at hrest
    · cases hrest
    · next hne =>
      cases hrest
      rw [String.toList_ofList]
      exact ⟨fun h ↦ hne (List.isEmpty_iff.mpr (String.ofList_eq_empty_iff.mp h)), hmarked⟩
  · rintro ⟨hne, hmarked⟩
    refine ⟨_, hmarked, rest.toList, rfl, ?_⟩
    rw [if_neg fun h ↦ hne (String.toList_eq_nil_iff.mp (List.isEmpty_iff.mp h)),
      String.ofList_toList]

/-- The tags with prefixed keys, under the keys that these stand for. -/
def strippedTags (lifecycle : String) (tags : List (String × String)) : List (String × String) :=
  tags.filterMap fun (key, value) ↦ (strip? lifecycle key).map (·, value)

/-- The tags with other keys. -/
def plainTags (lifecycle : String) (tags : List (String × String)) : List (String × String) :=
  tags.filter fun (key, _) ↦ (strip? lifecycle key).isNone

/-- The number of prefixed keys. -/
def strippedCount (lifecycle : String) (tags : List (String × String)) : Nat :=
  (strippedTags lifecycle tags).length

/-! ## The tags of the view -/

/-- The slots followed by those tags whose keys are not in the first `n` slots. -/
def addUnshadowed (n : Nat) :
    List (String × String) → (slots : Slots) → n ≤ slots.size → Slots
  | [], slots, _ => slots
  | tag :: tags, slots, h =>
    if (slots.search n h tag.1).isNone then
      -- the new slot lies behind the first `n`, so no later search sees it
      addUnshadowed n tags (slots.push tag) (by rw [Array.size_push]; exact Nat.le_succ_of_le h)
    else addUnshadowed n tags slots h

/-- The sorted prefixed tags, followed by those others whose keys they do not take. -/
def joined (lifecycle : String) (tags : List (String × String)) : Slots :=
  let stripped := Slots.sort (strippedTags lifecycle tags).toArray
  addUnshadowed stripped.size (plainTags lifecycle tags) stripped (Nat.le_refl _)

/-- The tags as if the prefix were not there. -/
def slots (lifecycle : String) (tags : List (String × String)) : Slots :=
  (joined lifecycle tags).sort

theorem mem_strippedTags {lifecycle key value : String} {tags : List (String × String)} :
    (key, value) ∈ strippedTags lifecycle tags ↔
      key ≠ "" ∧ (lifecycle ++ ":" ++ key, value) ∈ tags := by
  simp only [strippedTags, List.mem_filterMap, Option.map_eq_some_iff, Prod.mk.injEq,
    strip?_eq_some_iff, Prod.exists]
  constructor
  · rintro ⟨_, _, hmem, _, ⟨hne, rfl⟩, rfl, rfl⟩
    exact ⟨hne, hmem⟩
  · rintro ⟨hne, hmem⟩
    exact ⟨_, _, hmem, _, ⟨hne, rfl⟩, rfl, rfl⟩

theorem mem_plainTags {lifecycle : String} {tag : String × String} {tags : List (String × String)} :
    tag ∈ plainTags lifecycle tags ↔ tag ∈ tags ∧ strip? lifecycle tag.1 = none := by
  rw [plainTags, List.mem_filter, Option.isNone_iff_eq_none]

/-- Keys that stand for the same key are the same. -/
theorem unique_strippedTags (lifecycle : String) {tags : List (String × String)}
    (h : tags.Pairwise fun a b ↦ a.1 ≠ b.1) :
    (strippedTags lifecycle tags).Pairwise fun a b ↦ a.1 ≠ b.1 := by
  rw [strippedTags, List.pairwise_filterMap]
  -- the part after the prefix determines the key
  refine h.imp ?_
  rintro ⟨key, _⟩ ⟨key', _⟩ hne _ ha _ hb hrest
  simp only [Option.map_eq_some_iff, strip?_eq_some_iff] at ha hb
  obtain ⟨rest, ⟨-, hkey⟩, rfl⟩ := ha
  obtain ⟨rest', ⟨-, hkey'⟩, rfl⟩ := hb
  have heq : rest = rest' := hrest
  exact hne (by rw [hkey, hkey', heq])

/-- The search never looks beyond the slots that it started with. -/
theorem toList_addUnshadowed {n : Nat} {tags : List (String × String)} {slots : Slots}
    {h : n ≤ slots.size} (hasc : Slots.Ascending (slots.toList.take n)) :
    (addUnshadowed n tags slots h).toList =
      slots.toList ++ tags.filter fun tag ↦ tag.1 ∉ (slots.toList.take n).map Prod.fst := by
  induction tags generalizing slots with
  | nil => rw [addUnshadowed, List.filter_nil, List.append_nil]
  | cons tag tags ih =>
    rw [addUnshadowed]
    split
    · next hnone =>
      have hnew : tag.1 ∉ (slots.toList.take n).map Prod.fst := by
        rw [← Slots.isSome_search_iff (h := h) hasc]
        simpa using hnone
      have htake : (slots.push tag).toList.take n = slots.toList.take n := by
        rw [Array.toList_push, List.take_append_of_le_length (by rwa [Array.length_toList])]
      rw [ih (htake.symm ▸ hasc), htake, Array.toList_push, List.append_assoc,
        List.filter_cons_of_pos (by simpa using hnew), List.singleton_append]
    · next hsome =>
      have hold : tag.1 ∈ (slots.toList.take n).map Prod.fst := by
        rw [← Slots.isSome_search_iff (h := h) hasc]
        simpa [Option.isSome_iff_ne_none] using hsome
      rw [ih hasc, List.filter_cons_of_neg (by simpa using hold)]

/-- **The view has the prefixed tags, and those others that they do not shadow.** -/
theorem perm_joined (lifecycle : String) {tags : List (String × String)}
    (h : tags.Pairwise fun a b ↦ a.1 ≠ b.1) :
    (joined lifecycle tags).toList.Perm (strippedTags lifecycle tags ++
      (plainTags lifecycle tags).filter
        fun tag ↦ tag.1 ∉ (strippedTags lifecycle tags).map Prod.fst) := by
  have hperm := Slots.perm_sort (strippedTags lifecycle tags).toArray
  have hunique : (strippedTags lifecycle tags).toArray.toList.Pairwise fun a b ↦ a.1 ≠ b.1 :=
    unique_strippedTags lifecycle h
  have hasc := Slots.ascending_sort hunique
  have hall : ∀ slots : Slots, slots.toList.take slots.size = slots.toList := fun slots ↦ by
    rw [← Array.length_toList, List.take_length]
  rw [joined, toList_addUnshadowed (by rwa [hall]), hall]
  refine hperm.append (.of_eq (List.filter_congr fun tag _ ↦ ?_))
  exact decide_eq_decide.mpr (not_congr (hperm.map Prod.fst).mem_iff)

theorem ascending_slots (lifecycle : String) {tags : List (String × String)}
    (h : tags.Pairwise fun a b ↦ a.1 ≠ b.1) : Slots.Ascending (slots lifecycle tags).toList := by
  refine Slots.ascending_sort ((perm_joined lifecycle h).symm.pairwise ?_ Ne.symm)
  refine List.pairwise_append.mpr ⟨unique_strippedTags lifecycle h, (h.filter _).filter _, ?_⟩
  intro a ha b hb heq
  have hnew : b.1 ∉ (strippedTags lifecycle tags).map Prod.fst :=
    of_decide_eq_true (List.mem_filter.mp hb).2
  exact hnew (heq ▸ List.mem_map_of_mem ha)

theorem mem_slots {lifecycle : String} {tags : List (String × String)}
    (h : tags.Pairwise fun a b ↦ a.1 ≠ b.1) {key value : String} :
    (key, value) ∈ (slots lifecycle tags).toList ↔
      (key, value) ∈ strippedTags lifecycle tags ∨
      (key, value) ∈ plainTags lifecycle tags ∧
        key ∉ (strippedTags lifecycle tags).map Prod.fst := by
  rw [slots, (Slots.perm_sort _).mem_iff, (perm_joined lifecycle h).mem_iff, List.mem_append,
    List.mem_filter, decide_eq_true_iff]

end Lifecycle

/-! ## The view -/

/-- An element as if it were not in the state that a prefix marks. -/
structure LifecycleView (ε : Type) where
  element : ε
  tags : SortedTags
  /-- The number of keys that had the prefix. -/
  stripped : Nat

namespace LifecycleView

variable {ε : Type} [ElementView ε]

def kind (view : LifecycleView ε) : Kind := ElementView.kind view.element

def id (view : LifecycleView ε) : Int64 := ElementView.id view.element

def stamp (view : LifecycleView ε) : Option Stamp := ElementView.stamp view.element

instance : ElementView (LifecycleView ε) where
  tag? view := view.tags.get?
  tags view := view.tags.slots.toList
  kind := kind
  id := id
  stamp := stamp

instance : LawfulTagView (LifecycleView ε) where
  unique view := view.tags.ascending.imp String.ne_of_lt
  tag?_eq_some_iff view _ _ := Slots.get?_eq_some_iff view.tags.ascending

/-- The date of the last edit. -/
def editDate (view : LifecycleView ε) : Option Date := ElementView.editDate view

variable [LawfulTagView ε]

/-- An element as if it were not in the state that a prefix marks. -/
def of (lifecycle : String) (e : ε) : LifecycleView ε where
  element := e
  tags := ⟨Lifecycle.slots lifecycle (TagView.tags e),
    Lifecycle.ascending_slots lifecycle (LawfulTagView.unique e)⟩
  stripped := Lifecycle.strippedCount lifecycle (TagView.tags e)

/-- An element as if it were not in the state that a prefix marks, if it is in that state at all,
which some prefixed key has to show. -/
def of? (lifecycle : String) (e : ε) : Option (LifecycleView ε) :=
  let view := of lifecycle e
  if 0 < view.stripped then some view else none

end LifecycleView

namespace Element

/-- A stored element as if it were not in the state that a prefix marks. -/
def withoutLifecycle (e : Element) (lifecycle : String) : LifecycleView Element := .of lifecycle e

/-- A stored element as if it were not in the state that a prefix marks, if it is in that state. -/
def asIfItWasNot? (e : Element) (lifecycle : String) : Option (LifecycleView Element) :=
  LifecycleView.of? lifecycle e

end Element

end TagQuery
