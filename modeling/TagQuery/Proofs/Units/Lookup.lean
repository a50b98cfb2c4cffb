import TagQuery.Proofs.Units

/-!
# Looking up units

A suffix may be found by its exact spelling or ignoring the case of ASCII letters, and in the latter
case by any of several entries. In a table where no two suffixes are the same but for case there is
one entry at most, and both ways of looking come to it whatever the order in which the table is
looked through (`lookupAlong?_eq_some_iff`).

Two such tables with no suffix in common, again ignoring case, make one such table when they are
merged, and what is looked up there is looked up in the one or in the other (`lookup?_merge`).
-/

namespace TagQuery

/-! ## Case -/

theorem equalIgnoringCase_iff {s t : String} :
    equalIgnoringCase s t = true ↔ s.toList.map Char.toLower = t.toList.map Char.toLower :=
  decide_eq_true_iff

theorem equalIgnoringCase_symm {s t : String} (h : equalIgnoringCase s t = true) :
    equalIgnoringCase t s = true :=
  equalIgnoringCase_iff.mpr (equalIgnoringCase_iff.mp h).symm

theorem equalIgnoringCase_trans {s t u : String} (hst : equalIgnoringCase s t = true)
    (htu : equalIgnoringCase t u = true) : equalIgnoringCase s u = true :=
  equalIgnoringCase_iff.mpr ((equalIgnoringCase_iff.mp hst).trans (equalIgnoringCase_iff.mp htu))

namespace UnitTable

variable {table extra : UnitTable} {suffix key : String} {u : UnitDefinition}

theorem mem_keys_of_mem_entries (h : (key, u) ∈ table.entries) : key ∈ table.keys :=
  List.mem_map.mpr ⟨_, h, rfl⟩

/-! ## Tables of which every suffix has one reading -/

/-- No two suffixes are equal ignoring case. -/
def IsUnambiguous (table : UnitTable) : Prop :=
  ∀ s ∈ table.keys, ∀ t ∈ table.keys, equalIgnoringCase s t = true → s = t

instance (table : UnitTable) : Decidable table.IsUnambiguous :=
  inferInstanceAs (Decidable (∀ s ∈ table.keys, ∀ t ∈ table.keys, _))

theorem isUnambiguous_standard : standard.IsUnambiguous := by decide +kernel

/-! ## Walks through a table -/

/-- The definition of a suffix where the entries are looked through in the order of a walk. -/
def lookupAlong? (table : UnitTable) (walk : List (String × UnitDefinition)) (suffix : String) :
    Option UnitDefinition :=
  (table.get? suffix).or ((walk.find? fun e ↦ equalIgnoringCase e.1 suffix).map (·.2))

theorem lookupAlong?_entries (table : UnitTable) (suffix : String) :
    table.lookupAlong? table.entries suffix = table.lookup? suffix := rfl

section Walks

variable {walk : List (String × UnitDefinition)} (hwalk : walk.Perm table.entries)
include hwalk

theorem isSome_lookupAlong?_iff : (table.lookupAlong? walk suffix).isSome ↔ table.Knows suffix := by
  have hfind : (walk.find? fun e ↦ equalIgnoringCase e.1 suffix).isSome =
      (table.entries.find? fun e ↦ equalIgnoringCase e.1 suffix).isSome := by
    rw [Bool.eq_iff_iff]
    simp only [List.find?_isSome, hwalk.mem_iff]
  rw [← isSome_lookup?_iff, lookupAlong?, lookup?, Option.isSome_or, Option.isSome_or,
    Option.isSome_map, Option.isSome_map, hfind]

/-- What is found is the definition of a suffix that differs in case at most. -/
theorem exists_entry_of_lookupAlong? (h : table.lookupAlong? walk suffix = some u) :
    ∃ key, (key, u) ∈ table.entries ∧ equalIgnoringCase key suffix = true := by
  rcases Option.or_eq_some_iff.mp h with hexact | ⟨-, hfallback⟩
  · exact ⟨suffix, Dictionary.mem_entries_iff.mpr hexact, equalIgnoringCase_iff.mpr rfl⟩
  · obtain ⟨entry, hfind, rfl⟩ := Option.map_eq_some_iff.mp hfallback
    have hequal := List.find?_some hfind
    exact ⟨entry.1, hwalk.mem_iff.mp (List.mem_of_find?_eq_some hfind), hequal⟩

/-- **If every suffix has one reading, it is found under any spelling and on any walk.** -/
theorem lookupAlong?_eq_some_iff (h : table.IsUnambiguous) :
    table.lookupAlong? walk suffix = some u ↔
      ∃ key, (key, u) ∈ table.entries ∧ equalIgnoringCase key suffix = true := by
  refine ⟨exists_entry_of_lookupAlong? hwalk, ?_⟩
  rintro ⟨key, hentry, hequal⟩
  have hknows : table.Knows suffix := ⟨_, hentry, hequal⟩
  obtain ⟨v, hv⟩ := Option.isSome_iff_exists.mp ((isSome_lookupAlong?_iff hwalk).mpr hknows)
  obtain ⟨key', hentry', hequal'⟩ := exists_entry_of_lookupAlong? hwalk hv
  obtain rfl : key = key' :=
    h key (mem_keys_of_mem_entries hentry) key' (mem_keys_of_mem_entries hentry')
      (equalIgnoringCase_trans hequal (equalIgnoringCase_symm hequal'))
  have hu := Dictionary.mem_entries_iff.mp hentry
  have hv' := Dictionary.mem_entries_iff.mp hentry'
  rw [hv, ← hv', hu]

end Walks

theorem exists_entry_of_lookup? (h : table.lookup? suffix = some u) :
    ∃ key, (key, u) ∈ table.entries ∧ equalIgnoringCase key suffix = true :=
  exists_entry_of_lookupAlong? (List.Perm.refl _) ((lookupAlong?_entries table suffix).trans h)

theorem lookup?_eq_some_iff (h : table.IsUnambiguous) :
    table.lookup? suffix = some u ↔
      ∃ key, (key, u) ∈ table.entries ∧ equalIgnoringCase key suffix = true := by
  rw [← lookupAlong?_entries, lookupAlong?_eq_some_iff (List.Perm.refl _) h]

/-! ## Tables apart from each other -/

/-- No suffix of the one table is equal to one of the other ignoring case. -/
def IsApartFrom (extra table : UnitTable) : Prop :=
  ∀ s ∈ extra.keys, ∀ t ∈ table.keys, equalIgnoringCase s t = false

instance (extra table : UnitTable) : Decidable (extra.IsApartFrom table) :=
  inferInstanceAs (Decidable (∀ s ∈ extra.keys, ∀ t ∈ table.keys, _))

theorem IsApartFrom.false_of_equal {s t : String} (h : extra.IsApartFrom table)
    (hs : s ∈ extra.keys) (ht : t ∈ table.keys) (hequal : equalIgnoringCase s t = true) :
    False := by
  rw [h s hs t ht] at hequal
  contradiction

theorem IsApartFrom.get?_eq_none (h : extra.IsApartFrom table) (hkey : key ∈ extra.keys) :
    table.get? key = none := by
  rw [Option.eq_none_iff_forall_ne_some]
  intro v hv
  exact h.false_of_equal hkey (Dictionary.mem_keys_iff.mpr ⟨v, hv⟩) (equalIgnoringCase_iff.mpr rfl)

theorem IsApartFrom.mem_entries_merge_iff (h : extra.IsApartFrom table) :
    (key, u) ∈ (table.merge extra).entries ↔
      (key, u) ∈ table.entries ∨ (key, u) ∈ extra.entries := by
  rw [Dictionary.mem_entries_iff, Dictionary.mem_entries_iff, Dictionary.mem_entries_iff,
    Dictionary.get?_merge, Option.or_eq_some_iff]
  constructor
  · rintro (hextra | ⟨-, htable⟩)
    · exact .inr hextra
    · exact .inl htable
  · rintro (htable | hextra)
    · refine .inr ⟨?_, htable⟩
      rw [Option.eq_none_iff_forall_ne_some]
      intro v hv
      have hnone := h.get?_eq_none (Dictionary.mem_keys_iff.mpr ⟨v, hv⟩)
      rw [htable] at hnone
      contradiction
    · exact .inl hextra

theorem IsApartFrom.mem_keys_merge_iff (h : extra.IsApartFrom table) :
    key ∈ (table.merge extra).keys ↔ key ∈ table.keys ∨ key ∈ extra.keys := by
  simp only [Dictionary.mem_keys_iff, ← Dictionary.mem_entries_iff, h.mem_entries_merge_iff,
    exists_or]

theorem IsUnambiguous.merge (htable : table.IsUnambiguous) (hextra : extra.IsUnambiguous)
    (h : extra.IsApartFrom table) : IsUnambiguous (table.merge extra) := by
  intro s hs t ht hequal
  rcases h.mem_keys_merge_iff.mp hs with hs | hs <;>
    rcases h.mem_keys_merge_iff.mp ht with ht | ht
  · exact htable s hs t ht hequal
  · exact (h.false_of_equal ht hs (equalIgnoringCase_symm hequal)).elim
  · exact (h.false_of_equal hs ht hequal).elim
  · exact hextra s hs t ht hequal

/-- **What is looked up in a merged table is looked up in the one or in the other.** -/
theorem lookup?_merge (htable : table.IsUnambiguous) (hextra : extra.IsUnambiguous)
    (h : extra.IsApartFrom table) (suffix : String) :
    lookup? (table.merge extra) suffix = (table.lookup? suffix).or (extra.lookup? suffix) := by
  ext u
  rw [lookup?_eq_some_iff (htable.merge hextra h), Option.or_eq_some_iff,
    lookup?_eq_some_iff htable, lookup?_eq_some_iff hextra]
  simp only [h.mem_entries_merge_iff, or_and_right, exists_or]
  refine or_congr_right ⟨fun hu ↦ ⟨?_, hu⟩, And.right⟩
  obtain ⟨key, hentry, hequal⟩ := hu
  rw [Option.eq_none_iff_forall_ne_some]
  intro v hv
  obtain ⟨key', hentry', hequal'⟩ := exists_entry_of_lookup? hv
  exact h.false_of_equal (mem_keys_of_mem_entries hentry) (mem_keys_of_mem_entries hentry')
    (equalIgnoringCase_trans hequal (equalIgnoringCase_symm hequal'))

end UnitTable

end TagQuery
