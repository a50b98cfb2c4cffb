/-!
# Dictionaries

A dictionary maps texts to values. It is kept as the list of its entries in ascending order of
their keys, every key once; the order of texts is that of their code points, which is also the
order of their UTF-8 bytes. Both facts are part of the type, so a dictionary is determined by its
look-ups, and walking one gives its entries in a fixed order whatever the history of its writes.

The main statements are `get?_insert` and `mem_entries_iff`: a write is seen under its own key and
nowhere else, and the entries are exactly what look-ups find. So dictionaries with the same look-ups
are equal (`ext_get?`), and the order in which entries of different keys are written is of no
account (`ofList_of_perm`).
-/

namespace TagQuery

/-- A finite map from texts to values, with its entries in ascending order of their keys. -/
structure Dictionary (α : Type) where
  entries : List (String × α)
  sorted : entries.Pairwise fun a b ↦ a.1 < b.1

namespace Dictionary

variable {α β : Type}

instance [DecidableEq α] : DecidableEq (Dictionary α) := fun d e ↦
  decidable_of_iff (d.entries = e.entries) (by cases d; cases e; simp)

instance [Repr α] : Repr (Dictionary α) := ⟨fun d n ↦ reprPrec d.entries n⟩

theorem ext {d e : Dictionary α} (h : d.entries = e.entries) : d = e := by
  cases d; cases e; simpa using h

/-- The dictionary without entries. -/
def empty : Dictionary α := ⟨[], .nil⟩

instance : Inhabited (Dictionary α) := ⟨empty⟩

/-- The value under a key. -/
def get? (d : Dictionary α) (key : String) : Option α :=
  (d.entries.find? (·.1 == key)).map (·.2)

/-- Whether there is a value under a key. -/
def contains (d : Dictionary α) (key : String) : Bool := (d.get? key).isSome

/-- A dictionary stands for its entries where these are asked for one after the other. -/
instance : Coe (Dictionary α) (List (String × α)) := ⟨entries⟩

/-- The number of entries. -/
def size (d : Dictionary α) : Nat := d.entries.length

/-- Whether there are no entries. -/
def isEmpty (d : Dictionary α) : Bool := d.entries.isEmpty

/-- The keys, in ascending order. -/
def keys (d : Dictionary α) : List String := d.entries.map (·.1)

/-! ## Writing -/

/-- Entries in ascending order with one more, which takes the place of an entry of its key. -/
def insertEntry (key : String) (value : α) : List (String × α) → List (String × α)
  | [] => [(key, value)]
  | e :: es =>
    if key < e.1 then (key, value) :: e :: es
    else if key = e.1 then (key, value) :: es
    else e :: insertEntry key value es

theorem key_mem_insertEntry {key : String} {value : α} {es : List (String × α)} {a : String × α}
    (h : a ∈ insertEntry key value es) : a = (key, value) ∨ a ∈ es := by
  induction es with
  | nil => simpa [insertEntry] using h
  | cons e es ih =>
    simp only [insertEntry] at h
    split at h
    · simpa using h
    · split at h
      · rcases List.mem_cons.mp h with rfl | h
        · exact .inl rfl
        · exact .inr (List.mem_cons_of_mem _ h)
      · rcases List.mem_cons.mp h with rfl | h
        · exact .inr List.mem_cons_self
        · exact (ih h).imp_right (List.mem_cons_of_mem _)

theorem pairwise_insertEntry {key : String} {value : α} {es : List (String × α)}
    (h : es.Pairwise fun a b ↦ a.1 < b.1) :
    (insertEntry key value es).Pairwise fun a b ↦ a.1 < b.1 := by
  induction es with
  | nil => simp [insertEntry]
  | cons e es ih =>
    have htail := List.pairwise_cons.mp h
    simp only [insertEntry]
    split
    · next hlt =>
      refine List.pairwise_cons.mpr ⟨fun a ha ↦ ?_, h⟩
      rcases List.mem_cons.mp ha with rfl | ha
      · exact hlt
      · exact String.lt_trans hlt (htail.1 a ha)
    · next hlt =>
      split
      · next heq => exact List.pairwise_cons.mpr ⟨fun a ha ↦ heq ▸ htail.1 a ha, htail.2⟩
      · next hne =>
        refine List.pairwise_cons.mpr ⟨fun a ha ↦ ?_, ih htail.2⟩
        rcases key_mem_insertEntry ha with rfl | ha
        · exact String.not_le.mp fun hle ↦ hne (String.le_antisymm hle (String.not_lt.mp hlt))
        · exact htail.1 a ha

/-- The dictionary with a value under a key, in place of any value it had there. -/
def insert (d : Dictionary α) (key : String) (value : α) : Dictionary α :=
  ⟨insertEntry key value d.entries, pairwise_insertEntry d.sorted⟩

/-- The dictionary that writing entries one after the other gives, so that of two entries with one
key the later stays. -/
def insertAll (d : Dictionary α) (entries : List (String × α)) : Dictionary α :=
  entries.foldl (fun d e ↦ d.insert e.1 e.2) d

/-- The dictionary of a list of entries; of two entries with one key the later stays. -/
def ofList (entries : List (String × α)) : Dictionary α := empty.insertAll entries

/-- The entries of both dictionaries, the second one's in place of the first one's. -/
def merge (d e : Dictionary α) : Dictionary α := d.insertAll e.entries

/-! ## Looking up -/

@[simp] theorem get?_empty (key : String) : (empty : Dictionary α).get? key = none := rfl

private theorem find?_insertEntry (key key' : String) (value : α) (es : List (String × α))
    (h : es.Pairwise fun a b ↦ a.1 < b.1) :
    (insertEntry key value es).find? (·.1 == key') =
      if key' = key then some (key, value) else es.find? (·.1 == key') := by
  induction es with
  | nil =>
    by_cases hk : key' = key
    · simp [insertEntry, hk]
    · simp [insertEntry, hk, Ne.symm hk]
  | cons e es ih =>
    have ih := ih (List.pairwise_cons.mp h).2
    simp only [insertEntry]
    split
    · by_cases hk : key' = key
      · simp [hk]
      · rw [List.find?_cons_of_neg (by simpa using fun e ↦ hk e.symm), if_neg hk]
    · split
      · next heq =>
        by_cases hk : key' = key
        · simp [hk]
        · rw [List.find?_cons_of_neg (by simpa using fun e ↦ hk e.symm),
            List.find?_cons_of_neg (by simpa [← heq] using fun e ↦ hk e.symm), if_neg hk]
      · next hne =>
        by_cases he : e.1 = key'
        · rw [List.find?_cons_of_pos (by simpa using he),
            List.find?_cons_of_pos (by simpa using he),
            if_neg fun hk : key' = key ↦ hne (hk.symm.trans he.symm)]
        · rw [List.find?_cons_of_neg (by simpa using he),
            List.find?_cons_of_neg (by simpa using he), ih]

/-- **A write is seen under its own key and nowhere else.** -/
theorem get?_insert (d : Dictionary α) (key key' : String) (value : α) :
    (d.insert key value).get? key' = if key' = key then some value else d.get? key' := by
  simp only [get?, insert, find?_insertEntry key key' value d.entries d.sorted]
  split <;> simp

/-- **The entries are exactly what look-ups find.** -/
theorem mem_entries_iff {d : Dictionary α} {key : String} {value : α} :
    (key, value) ∈ d.entries ↔ d.get? key = some value := by
  obtain ⟨es, hs⟩ := d
  simp only [get?]
  induction es with
  | nil => simp
  | cons e es ih =>
    obtain ⟨hlt, htail⟩ := List.pairwise_cons.mp hs
    have ih := ih htail
    by_cases he : e.1 = key
    · rw [List.find?_cons_of_pos (by simpa using he)]
      constructor
      · intro h
        rcases List.mem_cons.mp h with h | h
        · simp [← h]
        · exact absurd (he ▸ hlt _ h) (String.lt_irrefl _)
      · intro h
        obtain ⟨k, v⟩ := e
        simp_all
    · rw [List.find?_cons_of_neg (by simpa using he), ← ih, List.mem_cons]
      exact ⟨fun h ↦ h.resolve_left fun h ↦ he (by simp [← h]), .inr⟩

/-! ## Keys and size -/

theorem mem_keys_iff {d : Dictionary α} {key : String} :
    key ∈ d.keys ↔ ∃ value, d.get? key = some value := by
  rw [keys, List.mem_map]
  constructor
  · rintro ⟨⟨key, value⟩, h, rfl⟩
    exact ⟨value, mem_entries_iff.mp h⟩
  · rintro ⟨value, h⟩
    exact ⟨(key, value), mem_entries_iff.mpr h, rfl⟩

theorem nodup_keys (d : Dictionary α) : d.keys.Nodup := by
  rw [keys, List.Nodup, List.pairwise_map]
  refine d.sorted.imp fun {a b} h (heq : a.1 = b.1) ↦ ?_
  rw [heq] at h
  exact String.lt_irrefl _ h

theorem size_eq_length_keys (d : Dictionary α) : d.size = d.keys.length := by
  rw [size, keys, List.length_map]

private theorem length_insertEntry {key : String} {es : List (String × α)}
    (h : ∀ e ∈ es, e.1 ≠ key) (value : α) :
    (insertEntry key value es).length = es.length + 1 := by
  induction es with
  | nil => rfl
  | cons e es ih =>
    rw [insertEntry]
    split
    · rfl
    · rw [if_neg (h e List.mem_cons_self).symm, List.length_cons, List.length_cons,
        ih fun a ha ↦ h a (List.mem_cons_of_mem _ ha)]

/-- A write under a new key makes a dictionary larger by one entry. -/
theorem size_insert {d : Dictionary α} {key : String} (h : d.get? key = none) (value : α) :
    (d.insert key value).size = d.size + 1 := by
  refine length_insertEntry (fun e he heq ↦ ?_) value
  have hfound : d.get? key = some e.2 := mem_entries_iff.mp (heq ▸ he)
  rw [h] at hfound
  cases hfound

/-! ## Dictionaries with the same look-ups -/

private theorem nodup_entries (d : Dictionary α) : d.entries.Nodup := by
  refine d.sorted.imp fun {a b} h (heq : a = b) ↦ ?_
  rw [heq] at h
  exact String.lt_irrefl _ h

/-- **A dictionary is determined by its look-ups.** -/
theorem ext_get? {d e : Dictionary α} (h : ∀ key, d.get? key = e.get? key) : d = e := by
  have hperm : d.entries.Perm e.entries := by
    rw [List.perm_ext_iff_of_nodup d.nodup_entries e.nodup_entries]
    rintro ⟨key, value⟩
    rw [mem_entries_iff, mem_entries_iff, h]
  refine ext (hperm.eq_of_pairwise (fun a b _ _ hab hba ↦ ?_) d.sorted e.sorted)
  exact absurd (String.lt_trans hab hba) (String.lt_irrefl _)

/-- Of the entries that are written, the last one of a key is found. -/
theorem get?_insertAll (d : Dictionary α) (entries : List (String × α)) (key : String) :
    (d.insertAll entries).get? key =
      ((entries.reverse.find? (·.1 == key)).map (·.2)).or (d.get? key) := by
  induction entries generalizing d with
  | nil => rfl
  | cons e entries ih =>
    have hstep : d.insertAll (e :: entries) = (d.insert e.1 e.2).insertAll entries := rfl
    rw [hstep, ih, get?_insert, List.reverse_cons, List.find?_append]
    cases entries.reverse.find? (·.1 == key) with
    | some a => rfl
    | none =>
      by_cases hkey : key = e.1
      · rw [if_pos hkey, List.find?_cons_of_pos (by simpa using hkey.symm)]
        rfl
      · rw [if_neg hkey, List.find?_cons_of_neg (by simpa using Ne.symm hkey)]
        rfl

theorem get?_ofList (entries : List (String × α)) (key : String) :
    (ofList entries).get? key = (entries.reverse.find? (·.1 == key)).map (·.2) := by
  rw [ofList, get?_insertAll, get?_empty, Option.or_none]

/-- The entries of a dictionary give it back, whatever the order in which they are written. -/
theorem ofList_of_perm {d : Dictionary α} {entries : List (String × α)}
    (h : entries.Perm d.entries) : ofList entries = d := by
  have hmem : ∀ a, a ∈ entries.reverse ↔ d.get? a.1 = some a.2 := by
    intro a
    rw [List.mem_reverse, h.mem_iff, ← mem_entries_iff]
  refine ext_get? fun key ↦ ?_
  rw [get?_ofList]
  cases hfound : entries.reverse.find? (·.1 == key) with
  | some a =>
    obtain rfl : a.1 = key := by simpa using List.find?_some hfound
    exact ((hmem a).mp (List.mem_of_find?_eq_some hfound)).symm
  | none =>
    cases hget : d.get? key with
    | none => rfl
    | some value =>
      have hvalue := List.find?_eq_none.mp hfound (key, value) ((hmem (key, value)).mpr hget)
      exact absurd (by simp) hvalue

/-- The entries of a list stand in place of those of their keys. -/
theorem get?_insertAll_eq_or (d : Dictionary α) (entries : List (String × α)) (key : String) :
    (d.insertAll entries).get? key = ((ofList entries).get? key).or (d.get? key) := by
  rw [get?_insertAll, get?_ofList]

/-- Two dictionaries are merged whatever the order in which the second one's entries are written. -/
theorem insertAll_of_perm {d e : Dictionary α} {entries : List (String × α)}
    (h : entries.Perm e.entries) : d.insertAll entries = d.merge e := by
  refine ext_get? fun key ↦ ?_
  rw [merge, get?_insertAll_eq_or, get?_insertAll_eq_or, ofList_of_perm h,
    ofList_of_perm (List.Perm.refl _)]

/-- A merged dictionary has the second one's entries in place of the first one's. -/
theorem get?_merge (d e : Dictionary α) (key : String) :
    (d.merge e).get? key = (e.get? key).or (d.get? key) := by
  rw [merge, get?_insertAll_eq_or, ofList_of_perm (List.Perm.refl _)]

end Dictionary

end TagQuery
