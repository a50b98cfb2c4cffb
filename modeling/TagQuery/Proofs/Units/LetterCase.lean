import TagQuery.Proofs.Units.Lookup

/-!
# Quantities in capital and in small letters

A numeral has no letters, so texts that differ in the case of letters alone begin with the same one,
and what they leave over differs in case again (`ReadsAs.exists_of_sameButForCase`). Whether they are
the same quantity is then up to the table. Where every suffix has one reading they are
(`parseTagValue?_eq_of_equalIgnoringCase`); in another table `30 mph` and `30 MPH` may be two units.
-/

namespace TagQuery

open Text

/-! ## Numerals -/

theorem IsSign.isAlpha_eq_false {sign : List Char} {negative : Bool} (h : IsSign sign negative) :
    ∀ c ∈ sign, c.isAlpha = false := by
  cases h with
  | none => exact List.forall_mem_nil _
  | plus => exact List.forall_mem_singleton.mpr rfl
  | minus => exact List.forall_mem_singleton.mpr rfl

theorem IsDigits.isAlpha_eq_false {cs : List Char} (h : IsDigits cs) :
    ∀ c ∈ cs, c.isAlpha = false :=
  fun c hc ↦ isAlpha_eq_false_of_isDigit (h.all c hc)

theorem Writes.isAlpha_eq_false {numeral : List Char} {negative : Bool} {q : ℚ}
    (h : Writes numeral negative q) : ∀ c ∈ numeral, c.isAlpha = false := by
  have hpoint {fraction : List Char} (hfraction : IsDigits fraction) :
      ∀ c ∈ '.' :: fraction, c.isAlpha = false :=
    List.forall_mem_cons.mpr ⟨rfl, hfraction.isAlpha_eq_false⟩
  cases h with
  | whole hsign hdigits =>
    exact List.forall_mem_append.mpr ⟨hsign.isAlpha_eq_false, hdigits.isAlpha_eq_false⟩
  | point hsign hdigits hfraction =>
    have hwhole := List.forall_mem_append.mpr ⟨hsign.isAlpha_eq_false, hdigits.isAlpha_eq_false⟩
    exact List.forall_mem_append.mpr ⟨hwhole, hpoint hfraction⟩
  | fraction hsign hfraction =>
    exact List.forall_mem_append.mpr ⟨hsign.isAlpha_eq_false, hpoint hfraction⟩

section

variable {cs ds numeral rest : List Char}

theorem StartsWith.exists_of_sameButForCase {negative : Bool} {q : ℚ}
    (h : StartsWith cs numeral rest negative q) (hsame : SameButForCase cs ds) :
    ∃ rest', StartsWith ds numeral rest' negative q ∧ SameButForCase rest rest' := by
  rw [h.eq_append] at hsame
  obtain ⟨rest', hds, hrest⟩ := hsame.exists_append h.writes.isAlpha_eq_false
  refine ⟨rest', ⟨hds, h.writes, ?_⟩, hrest⟩
  -- a longer numeral of the one text would be one of the other
  intro longer more _ _ happend hwrites
  rw [← h.eq_append] at hsame
  obtain ⟨more', hcs, -⟩ := (happend ▸ hsame.symm).exists_append hwrites.isAlpha_eq_false
  exact h.longest hcs hwrites

theorem ReadsAs.exists_of_sameButForCase {x : Float} (h : ReadsAs cs numeral rest x)
    (hsame : SameButForCase cs ds) :
    ∃ rest', ReadsAs ds numeral rest' x ∧ SameButForCase rest rest' := by
  obtain ⟨negative, q, hstart, hround⟩ := h
  obtain ⟨rest', hstart', hrest⟩ := hstart.exists_of_sameButForCase hsame
  exact ⟨rest', ⟨negative, q, hstart', hround⟩, hrest⟩

end

/-! ## Quantities -/

namespace UnitTable

variable {table : UnitTable} {s t suffix suffix' : String} {x : Float} {quantity : Quantity}

/-- What is found under one spelling is found under the other, on any walks. -/
theorem lookupAlong?_eq_of_equalIgnoringCase {walk walk' : List (String × UnitDefinition)}
    (h : table.IsUnambiguous) (hwalk : walk.Perm table.entries) (hwalk' : walk'.Perm table.entries)
    (heq : equalIgnoringCase s t = true) :
    table.lookupAlong? walk s = table.lookupAlong? walk' t := by
  ext u
  rw [lookupAlong?_eq_some_iff hwalk h, lookupAlong?_eq_some_iff hwalk' h]
  refine exists_congr fun key ↦ and_congr_right fun _ ↦ ?_
  exact ⟨fun hs ↦ equalIgnoringCase_trans hs heq,
    fun ht ↦ equalIgnoringCase_trans ht (equalIgnoringCase_symm heq)⟩

theorem Amounts.of_equalIgnoringCase (hamounts : table.Amounts x suffix quantity)
    (h : table.IsUnambiguous) (heq : equalIgnoringCase suffix suffix' = true) :
    table.Amounts x suffix' quantity := by
  have hsame : SameButForCase suffix.toList suffix'.toList := equalIgnoringCase_iff.mp heq
  have hempty : suffix = "" ↔ suffix' = "" := by
    rw [← String.toList_eq_nil_iff, hsame.eq_nil_iff, String.toList_eq_nil_iff]
  have hlookup : table.lookup? suffix = table.lookup? suffix' := by
    rw [← lookupAlong?_entries, ← lookupAlong?_entries,
      lookupAlong?_eq_of_equalIgnoringCase h (List.Perm.refl _) (List.Perm.refl _) heq]
  rw [Amounts, ne_eq] at hamounts ⊢
  rwa [← hempty, ← hlookup]

theorem parseTagValue?_of_equalIgnoringCase (hparse : table.parseTagValue? s = some quantity)
    (h : table.IsUnambiguous) (heq : equalIgnoringCase s t = true) :
    table.parseTagValue? t = some quantity := by
  obtain ⟨numeral, rest, x, hreads, hamounts⟩ := parseTagValue?_eq_some_iff.mp hparse
  have hsame : SameButForCase s.toList t.toList := equalIgnoringCase_iff.mp heq
  obtain ⟨rest', hreads', hrest⟩ := hreads.exists_of_sameButForCase hsame.trim
  have hsuffix : equalIgnoringCase (.ofList (trimStart rest)) (.ofList (trimStart rest')) = true := by
    rw [equalIgnoringCase_iff, String.toList_ofList, String.toList_ofList]
    exact hrest.trimStart
  exact parseTagValue?_eq_some_iff.mpr
    ⟨numeral, rest', x, hreads', hamounts.of_equalIgnoringCase h hsuffix⟩

/-- **If every suffix has one reading, the case of letters makes no difference to a quantity.** -/
theorem parseTagValue?_eq_of_equalIgnoringCase (h : table.IsUnambiguous)
    (heq : equalIgnoringCase s t = true) : table.parseTagValue? s = table.parseTagValue? t := by
  ext quantity
  exact ⟨fun hs ↦ parseTagValue?_of_equalIgnoringCase hs h heq,
    fun ht ↦ parseTagValue?_of_equalIgnoringCase ht h (equalIgnoringCase_symm heq)⟩

end UnitTable

end TagQuery
