import TagQuery.Dictionary

/-!
# Slots

Tags that are kept in the slots of an array, and found there by halving: the key in the middle slot
tells which half of the slots can be left out. That is right only where the keys ascend. It may be
just the first slots of an array whose keys do, and the search is then kept to those.

What a search finds is there whatever the order of the slots (`searchFrom_sound`); that it finds
what is there needs the order (`searchFrom_complete`).
-/

namespace TagQuery

/-- Tags in an array. -/
abbrev Slots := Array (String × String)

namespace Slots

/-- The slots in ascending order of their keys. -/
def sort (slots : Slots) : Slots := (slots.toList.mergeSort fun a b ↦ decide (a.1 ≤ b.1)).toArray

/-- The slot with a key among those from `lo` up to `hi`, if the keys ascend there. -/
def searchFrom (slots : Slots) (key : String) (lo hi : Nat) (h : hi ≤ slots.size) :
    Option (Fin slots.size) :=
  if hlt : lo < hi then
    let mid := lo + (hi - lo) / 2
    -- bounds the slot, and both halves that may be left to search
    have hmid : mid < hi := by omega
    if slots[mid].1 = key then some ⟨mid, by omega⟩
    else if slots[mid].1 < key then searchFrom slots key (mid + 1) hi h
    else searchFrom slots key lo mid (by omega)
  else none
termination_by hi - lo

/-- The slot with a key among the first `n`, if the keys ascend there. -/
def search (slots : Slots) (n : Nat) (h : n ≤ slots.size) (key : String) :
    Option (Fin slots.size) :=
  searchFrom slots key 0 n h

/-- The value in the slot with a key, if the keys ascend. -/
def get? (slots : Slots) (key : String) : Option String :=
  (slots.search slots.size (Nat.le_refl _) key).map fun i ↦ slots[i].2

/-- Whether the keys of tags ascend, so that no key occurs twice. -/
def Ascending (tags : List (String × String)) : Prop := tags.Pairwise fun a b ↦ a.1 < b.1

/-! ## Sorting -/

theorem perm_sort (slots : Slots) : slots.sort.toList.Perm slots.toList :=
  List.mergeSort_perm _ _

theorem ascending_sort {slots : Slots} (h : slots.toList.Pairwise fun a b ↦ a.1 ≠ b.1) :
    Ascending slots.sort.toList := by
  have hsorted : slots.sort.toList.Pairwise fun a b ↦ decide (a.1 ≤ b.1) = true := by
    apply List.pairwise_mergeSort
    · intro a b c hab hbc
      exact decide_eq_true (String.le_trans (of_decide_eq_true hab) (of_decide_eq_true hbc))
    · intro a b
      rw [Bool.or_eq_true, decide_eq_true_iff, decide_eq_true_iff]
      exact String.le_total a.1 b.1
  have hunique : slots.sort.toList.Pairwise fun a b ↦ a.1 ≠ b.1 :=
    (perm_sort slots).symm.pairwise h fun hne ↦ hne.symm
  refine (hsorted.and hunique).imp ?_
  rintro a b ⟨hle, hne⟩
  exact String.not_le.mp fun hge ↦ hne (String.le_antisymm (of_decide_eq_true hle) hge)

/-! ## Searching -/

theorem searchFrom_sound {slots : Slots} {key : String} {lo hi : Nat} {h : hi ≤ slots.size}
    {i : Fin slots.size} (hfound : searchFrom slots key lo hi h = some i) :
    i < hi ∧ slots[i].1 = key := by
  fun_induction searchFrom slots key lo hi h with
  | case1 lo hi h hlt mid hmid hkey =>
    cases hfound
    exact ⟨hmid, hkey⟩
  | case2 lo hi h hlt mid hmid hkey hbelow ih => exact ih hfound
  | case3 lo hi h hlt mid hmid hkey hbelow ih =>
    obtain ⟨hi, hvalue⟩ := ih hfound
    exact ⟨Nat.lt_trans hi hmid, hvalue⟩
  | case4 => cases hfound

theorem key_lt_key {slots : Slots} {n i j : Nat} (hasc : Ascending (slots.toList.take n))
    (hn : n ≤ slots.size) (hij : i < j) (hj : j < n) : slots[i].1 < slots[j].1 := by
  have hlength : (slots.toList.take n).length = n := by
    rw [List.length_take, Array.length_toList, Nat.min_eq_left hn]
  have hlt := List.pairwise_iff_getElem.mp hasc i j (by omega) (by omega) hij
  simpa only [List.getElem_take, Array.getElem_toList] using hlt

theorem searchFrom_complete {slots : Slots} {key : String} {lo hi : Nat} {h : hi ≤ slots.size}
    (hasc : Ascending (slots.toList.take hi)) {i : Nat} (hlo : lo ≤ i) (hhi : i < hi)
    (hkey : slots[i].1 = key) : searchFrom slots key lo hi h = some ⟨i, by omega⟩ := by
  fun_induction searchFrom slots key lo hi h with
  | case1 lo hi h hlt mid hmid hmidkey =>
    -- two slots with the key are one, as keys ascend
    rcases Nat.lt_trichotomy i mid with hbefore | heq | hafter
    · exact absurd (hkey.trans hmidkey.symm) (String.ne_of_lt (key_lt_key hasc h hbefore hmid))
    · exact congrArg some (Fin.ext heq.symm)
    · exact absurd (hmidkey.trans hkey.symm) (String.ne_of_lt (key_lt_key hasc h hafter hhi))
  | case2 lo hi h hlt mid hmid hne hbelow ih =>
    -- no slot up to the middle has the key, since the middle one has a smaller key
    refine ih hasc (Nat.lt_of_not_le fun hle ↦ ?_) hhi hkey
    rcases Nat.lt_or_eq_of_le hle with hbefore | rfl
    · have habove : slots[i].1 < slots[mid].1 := key_lt_key hasc h hbefore hmid
      exact String.lt_irrefl key (String.lt_trans (hkey ▸ habove) hbelow)
    · exact hne hkey
  | case3 lo hi h hlt mid hmid hne hbelow ih =>
    -- what is left of ascending slots is ascending
    have hasc' : Ascending (slots.toList.take mid) :=
      hasc.sublist (List.take_sublist_take_left (Nat.le_of_lt hmid))
    refine ih hasc' hlo (Nat.lt_of_not_le fun hle ↦ ?_) hkey
    rcases Nat.lt_or_eq_of_le hle with hafter | rfl
    · exact hbelow (hkey ▸ key_lt_key hasc h hafter hhi)
    · exact hne hkey
  | case4 lo hi h hlt => exact absurd (Nat.lt_of_le_of_lt hlo hhi) hlt

/-- **A search in ascending slots finds the slot with the key.** -/
theorem search_eq_some_iff {slots : Slots} {n : Nat} {h : n ≤ slots.size}
    (hasc : Ascending (slots.toList.take n)) {key : String} {i : Fin slots.size} :
    slots.search n h key = some i ↔ i < n ∧ slots[i].1 = key := by
  constructor
  · exact searchFrom_sound
  · rintro ⟨hi, hkey⟩
    exact searchFrom_complete hasc (Nat.zero_le _) hi hkey

theorem isSome_search_iff {slots : Slots} {n : Nat} {h : n ≤ slots.size}
    (hasc : Ascending (slots.toList.take n)) {key : String} :
    (slots.search n h key).isSome ↔ key ∈ (slots.toList.take n).map Prod.fst := by
  rw [Option.isSome_iff_exists, List.mem_map]
  constructor
  · rintro ⟨i, hi⟩
    obtain ⟨hlt, hkey⟩ := (search_eq_some_iff hasc).mp hi
    have hi' : i < min n slots.toList.length := by
      rw [Array.length_toList]
      omega
    exact ⟨slots[i], List.mem_take_iff_getElem.mpr ⟨i, hi', rfl⟩, hkey⟩
  · rintro ⟨tag, hmem, hkey⟩
    obtain ⟨i, hi, rfl⟩ := List.mem_take_iff_getElem.mp hmem
    rw [Array.length_toList] at hi
    exact ⟨⟨i, by omega⟩, (search_eq_some_iff hasc).mpr ⟨show i < n by omega, hkey⟩⟩

/-- **What is found are the tags in the slots.** -/
theorem get?_eq_some_iff {slots : Slots} (hasc : Ascending slots.toList) {key value : String} :
    slots.get? key = some value ↔ (key, value) ∈ slots.toList := by
  have hall : Ascending (slots.toList.take slots.size) := by
    rwa [← Array.length_toList, List.take_length]
  rw [get?, Option.map_eq_some_iff, Array.mem_toList_iff, Array.mem_iff_getElem]
  constructor
  · rintro ⟨i, hi, hvalue⟩
    obtain ⟨-, hkey⟩ := (search_eq_some_iff hall).mp hi
    exact ⟨i, i.isLt, Prod.ext hkey hvalue⟩
  · rintro ⟨i, hi, htag⟩
    refine ⟨⟨i, hi⟩, (search_eq_some_iff hall).mpr ⟨hi, ?_⟩, ?_⟩
    · exact congrArg Prod.fst htag
    · exact congrArg Prod.snd htag

end Slots

/-! ## Slots in order -/

/-- Tags in slots in ascending order of their keys. -/
structure SortedTags where
  slots : Slots
  ascending : Slots.Ascending slots.toList

namespace SortedTags

/-- The value under a key. -/
def get? (tags : SortedTags) (key : String) : Option String := tags.slots.get? key

/-- The same tags as a dictionary. -/
def toDictionary (tags : SortedTags) : Dictionary String := ⟨tags.slots.toList, tags.ascending⟩

instance : Coe SortedTags (Dictionary String) := ⟨toDictionary⟩

end SortedTags

end TagQuery
