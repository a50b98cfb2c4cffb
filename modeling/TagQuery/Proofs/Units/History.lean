import Mathlib.Data.List.Dedup
import TagQuery.Proofs.Units.LetterCase

/-!
# The history of a table of units

A table is written to by single definitions and by other tables that are merged into it. What becomes
of it is told by the log of its writes alone, the entries it starts with counting as the first of
them: it is the table that is made from nothing by writing the log (`after_eq_ofList`). One write
extends the log by its entries, and this carries over to a history of any length.

Of the writes under one spelling the last is in force, so what the table has under a spelling can be
read off the log (`get?_ofList_eq_some_iff`), and so can what is found under other spellings, and how
many there are (`last_writer_wins`).
-/

namespace TagQuery

/-- A write to a table of units: the definition of a suffix, or all those of another table. -/
inductive TableWrite where
  | insert (suffix : String) (u : UnitDefinition)
  | merge (other : UnitTable)

namespace TableWrite

/-- The entries that are written, one after the other. -/
def entries : TableWrite → List (String × UnitDefinition)
  | insert suffix u => [(suffix, u)]
  | merge other => other.entries

/-- The table after a write. -/
def apply (table : UnitTable) : TableWrite → UnitTable
  | insert suffix u => Dictionary.insert table suffix u
  | merge other => Dictionary.merge table other

theorem apply_eq_insertAll (table : UnitTable) (w : TableWrite) :
    apply table w = table.insertAll w.entries := by
  cases w <;> rfl

end TableWrite

/-- A definition is the last one that a log has under a spelling. -/
def IsLastWritten (log : List (String × UnitDefinition)) (key : String) (u : UnitDefinition) :
    Prop :=
  ∃ earlier later, log = earlier ++ (key, u) :: later ∧ ∀ e ∈ later, e.1 ≠ key

namespace UnitTable

variable {table : UnitTable} {log : List (String × UnitDefinition)} {key : String}
  {u : UnitDefinition}

/-- The table after a history of writes. -/
def after (table : UnitTable) (writes : List TableWrite) : UnitTable :=
  writes.foldl TableWrite.apply table

/-- All entries that were ever written to a table, the oldest first. -/
def logAfter (table : UnitTable) (writes : List TableWrite) : List (String × UnitDefinition) :=
  table.entries ++ writes.flatMap TableWrite.entries

/-! ## A table is its log -/

theorem apply_ofList (log : List (String × UnitDefinition)) (w : TableWrite) :
    w.apply (Dictionary.ofList log) = Dictionary.ofList (log ++ w.entries) := by
  rw [TableWrite.apply_eq_insertAll, Dictionary.ofList, Dictionary.ofList, Dictionary.insertAll,
    Dictionary.insertAll, Dictionary.insertAll, List.foldl_append]

theorem after_ofList (log : List (String × UnitDefinition)) (writes : List TableWrite) :
    after (.ofList log) writes = .ofList (log ++ writes.flatMap TableWrite.entries) := by
  induction writes generalizing log with
  | nil => rw [List.flatMap_nil, List.append_nil, after, List.foldl_nil]
  | cons w writes ih =>
    have hstep : after (.ofList log) (w :: writes) = after (.ofList (log ++ w.entries)) writes :=
      congrArg (after · writes) (apply_ofList log w)
    rw [hstep, ih, List.flatMap_cons, List.append_assoc]

/-- **After any history, a table is what writing its log from the beginning gives.** -/
theorem after_eq_ofList (table : UnitTable) (writes : List TableWrite) :
    table.after writes = .ofList (table.logAfter writes) := by
  have hstart : Dictionary.ofList table.entries = table :=
    Dictionary.ofList_of_perm (List.Perm.refl _)
  rw [logAfter, ← after_ofList, hstart]

/-! ## What a log says -/

theorem get?_ofList_eq_some_iff :
    (Dictionary.ofList log).get? key = some u ↔ IsLastWritten log key u := by
  rw [Dictionary.get?_ofList, Option.map_eq_some_iff]
  simp only [List.find?_eq_some_iff_append]
  constructor
  · -- what is written last is found first from the end
    rintro ⟨⟨key', u'⟩, ⟨hkey, later, earlier, hlog, hlater⟩, rfl⟩
    obtain rfl : key' = key := eq_of_beq hkey
    refine ⟨earlier.reverse, later.reverse, ?_, fun e he ↦ ?_⟩
    · rw [← List.reverse_reverse log, hlog]
      simp
    · simpa using hlater e (List.mem_reverse.mp he)
  · rintro ⟨earlier, later, rfl, hlater⟩
    refine ⟨(key, u), ⟨beq_self_eq_true key, later.reverse, earlier.reverse, by simp, ?_⟩, rfl⟩
    intro e he
    simpa using hlater e (List.mem_reverse.mp he)

theorem exists_isLastWritten_iff : (∃ u, IsLastWritten log key u) ↔ key ∈ log.map (·.1) := by
  simp only [← get?_ofList_eq_some_iff, ← Option.isSome_iff_exists]
  rw [Dictionary.get?_ofList, Option.isSome_map, List.find?_isSome, List.mem_map]
  simp only [List.mem_reverse, beq_iff_eq]

theorem mem_keys_ofList_iff : key ∈ (Dictionary.ofList log).keys ↔ key ∈ log.map (·.1) := by
  rw [Dictionary.mem_keys_iff, ← exists_isLastWritten_iff]
  simp only [get?_ofList_eq_some_iff]

/-- A table has as many entries as there are spellings in its log. -/
theorem size_ofList (log : List (String × UnitDefinition)) :
    (Dictionary.ofList log).size = (log.map (·.1)).dedup.length := by
  have hperm : (Dictionary.ofList log).keys.Perm (log.map (·.1)).dedup := by
    rw [List.perm_ext_iff_of_nodup (Dictionary.nodup_keys _) (List.nodup_dedup _)]
    intro key
    rw [mem_keys_ofList_iff, List.mem_dedup]
  rw [Dictionary.size_eq_length_keys, hperm.length_eq]

theorem knows_ofList_iff {suffix : String} :
    Knows (.ofList log) suffix ↔ ∃ e ∈ log, equalIgnoringCase e.1 suffix = true := by
  have hkeys : Knows (.ofList log) suffix ↔
      ∃ key ∈ (Dictionary.ofList log).keys, equalIgnoringCase key suffix = true := by
    simp only [Knows, Dictionary.keys, List.mem_map, exists_exists_and_eq_and]
  simp only [hkeys, mem_keys_ofList_iff, List.mem_map, exists_exists_and_eq_and]

/-! ## What a table says -/

/-- A table says what its log does. Where the spelling that is looked up was never written, what is
found may depend on the walk through the table, and all that is known is that it stands under a
spelling that is equal ignoring case. -/
structure Follows (table : UnitTable) (log : List (String × UnitDefinition)) : Prop where
  get?_eq_some_iff (key : String) (u : UnitDefinition) :
    table.get? key = some u ↔ IsLastWritten log key u
  lookup_of_written {walk : List (String × UnitDefinition)} (hwalk : walk.Perm table.entries)
    {suffix : String} {u : UnitDefinition} (h : IsLastWritten log suffix u) :
    table.lookupAlong? walk suffix = some u
  exists_of_not_written {walk : List (String × UnitDefinition)} (hwalk : walk.Perm table.entries)
    {suffix : String} {u : UnitDefinition} (hsuffix : suffix ∉ log.map (·.1))
    (h : table.lookupAlong? walk suffix = some u) :
    ∃ key, IsLastWritten log key u ∧ equalIgnoringCase key suffix = true
  lookup_eq_none_iff {walk : List (String × UnitDefinition)} (hwalk : walk.Perm table.entries)
    (suffix : String) :
    table.lookupAlong? walk suffix = none ↔ ∀ e ∈ log, equalIgnoringCase e.1 suffix = false
  size_eq : table.size = (log.map (·.1)).dedup.length

theorem follows_ofList (log : List (String × UnitDefinition)) : Follows (.ofList log) log where
  get?_eq_some_iff _ _ := get?_ofList_eq_some_iff
  lookup_of_written _ _ _ h := by
    rw [lookupAlong?, get?_ofList_eq_some_iff.mpr h, Option.some_or]
  exists_of_not_written hwalk _ _ _ h := by
    obtain ⟨key, hentry, hequal⟩ := exists_entry_of_lookupAlong? hwalk h
    exact ⟨key, get?_ofList_eq_some_iff.mp (Dictionary.mem_entries_iff.mp hentry), hequal⟩
  lookup_eq_none_iff hwalk suffix := by
    rw [← Option.not_isSome_iff_eq_none, isSome_lookupAlong?_iff hwalk, knows_ofList_iff]
    simp only [not_exists, not_and, Bool.not_eq_true]
  size_eq := size_ofList log

/-- **The last writer wins, and the rest is found ignoring case.** Whatever is written to a table, it
has under every spelling the definition that was written last, and finds what was never written under
a spelling that is equal ignoring case, if there is one. Merging in another table is one write of all
its entries, in whatever order they come.

Once no two spellings are equal ignoring case, neither the case of what is looked up nor the walk
through the table is of account, nor is the case of the value of a tag. -/
theorem last_writer_wins (table : UnitTable) (writes : List TableWrite) :
    Follows (table.after writes) (table.logAfter writes) ∧
    (∀ (other : UnitTable) (walk : List (String × UnitDefinition)), walk.Perm other.entries →
      (table.after writes).insertAll walk = table.after (writes ++ [.merge other])) ∧
    ((table.after writes).IsUnambiguous → ∀ s t, equalIgnoringCase s t = true →
      (∀ walk walk', walk.Perm (table.after writes).entries →
        walk'.Perm (table.after writes).entries →
        (table.after writes).lookupAlong? walk s = (table.after writes).lookupAlong? walk' t) ∧
      (table.after writes).parseTagValue? s = (table.after writes).parseTagValue? t) := by
  refine ⟨?_, fun other walk hwalk ↦ ?_, fun h s t heq ↦ ⟨fun walk walk' hwalk hwalk' ↦ ?_, ?_⟩⟩
  · rw [after_eq_ofList]
    exact follows_ofList _
  · rw [Dictionary.insertAll_of_perm hwalk, after, after, List.foldl_append, List.foldl_cons,
      List.foldl_nil, TableWrite.apply]
  · exact lookupAlong?_eq_of_equalIgnoringCase h hwalk hwalk' heq
  · exact parseTagValue?_eq_of_equalIgnoringCase h heq

/-- A merge overrides what the standard table says of miles per hour. Another spelling may then have
another definition, and only under a third one it is open which of them is found. -/
theorem last_writer_wins_mph :
    let mile : UnitDefinition := ⟨.speed, 2⟩
    let league : UnitDefinition := ⟨.speed, 5⟩
    let writes : List TableWrite := [.merge (.ofList [("mph", mile)]), .insert "MPH" league]
    let table := standard.after writes
    table.lookup? "mph" = some mile ∧ table.lookup? "MPH" = some league ∧
      (∀ u, table.lookup? "Mph" = some u →
        ∃ key, IsLastWritten (standard.logAfter writes) key u ∧
          equalIgnoringCase key "Mph" = true) ∧
      table.lookup? "furlongs" = none ∧ table.size = 15 ∧
      table.insertAll standard.entries.reverse = standard.after (writes ++ [.merge standard]) ∧
      standard.parseTagValue? "20 MPH" = standard.parseTagValue? "20 mph" := by
  intro mile league writes table
  obtain ⟨hfollows, hmerge, -⟩ := last_writer_wins standard writes
  obtain ⟨-, -, hcase⟩ := last_writer_wins standard []
  have hwalk := List.Perm.refl table.entries
  refine ⟨hfollows.lookup_of_written hwalk ?_, hfollows.lookup_of_written hwalk ?_,
    fun u hu ↦ hfollows.exists_of_not_written hwalk ?_ hu,
    (hfollows.lookup_eq_none_iff hwalk "furlongs").mpr ?_, hfollows.size_eq.trans ?_,
    hmerge standard _ (List.reverse_perm _), (hcase isUnambiguous_standard "20 MPH" "20 mph" ?_).2⟩
  · exact ⟨standard.entries, [("MPH", league)], rfl, by decide⟩
  · exact ⟨standard.entries ++ [("mph", mile)], [], List.append_cons _ _ _, List.forall_mem_nil _⟩
  · decide +kernel
  · decide +kernel
  · decide +kernel
  · decide +kernel

end UnitTable

end TagQuery
