import TagQuery.Filter.Predicate
import TagQuery.Proofs.Except
import TagQuery.Proofs.Literal.Date
import TagQuery.Proofs.Units

/-!
# Comparisons with dates and with quantities

The literal of a comparison is a date or a quantity, and its first characters decide as which of the
two it is read. The decision is made before either reading is tried, so it could be wrong in two
ways: it could send a quantity to the reader of dates, or a date to the reader of quantities.

The first never happens (`looksLikeDate_of_parseLiteral`). What begins with `today` begins with
no numeral, and where a hyphen follows four digits, the numeral ends before the hyphen. The hyphen
would have to begin a unit then, and no unit does (`UnitTable.IsHyphenFree`). The second happens to
bare years alone (`isBareYear_of_parse`), and these are quantities. So nothing that is accepted
under either reading is lost, and only a bare year has a reading that is not taken
(`reads_comparison`).
-/

namespace TagQuery

open Text

/-! ## The start of a literal -/

namespace DateLiteral

/-- A literal looks like a date by its first characters. -/
theorem looksLikeDate_iff {literal : String} :
    looksLikeDate literal = true ↔
      (∃ rest, trim literal.toList = "today".toList ++ rest) ∨
      ∃ year rest, IsField 4 year ∧ trim literal.toList = year ++ '-' :: rest := by
  rw [looksLikeDate]
  generalize trim literal.toList = cs
  constructor
  · intro h
    split at h
    · exact .inl ⟨_, rfl⟩
    · next _ a b c d rest =>
      simp only [Bool.and_eq_true] at h
      obtain ⟨⟨⟨ha, hb⟩, hc⟩, hd⟩ := h
      exact .inr ⟨[a, b, c, d], rest, ⟨⟨List.cons_ne_nil _ _, by simp [ha, hb, hc, hd]⟩, rfl⟩, rfl⟩
    · contradiction
  · rintro (⟨rest, rfl⟩ | ⟨year, rest, hyear, rfl⟩)
    · rfl
    · obtain ⟨a, b, c, d, rfl⟩ := List.length_eq_four.mp hyear.length_eq
      have hdigit := hyear.all
      simp only [List.mem_cons, List.not_mem_nil, or_false, forall_eq_or_imp, forall_eq] at hdigit
      obtain ⟨ha, hb, hc, hd⟩ := hdigit
      split
      · rfl
      · next heq =>
        cases heq
        rw [ha, hb, hc, hd]
        rfl
      · next hne => exact absurd rfl (hne _ _ _ _ _)

/-- A literal is a year and nothing else, blanks around it aside. -/
def IsBareYear (literal : String) : Prop := IsField 4 (trim literal.toList)

/-- Of the dates only bare years do not look like dates. -/
theorem isBareYear_of_parse {literal : String} {l : DateLiteral} (h : parse literal = .ok l)
    (hlooks : looksLikeDate literal = false) : IsBareYear literal := by
  rw [Bool.eq_false_iff, ne_eq, looksLikeDate_iff, not_or] at hlooks
  obtain ⟨htoday, hyear⟩ := hlooks
  rw [IsBareYear]
  rcases isWritten_or_isSignedTwice h with hwritten | ⟨hshift, -⟩
  · generalize trim literal.toList = cs at hwritten htoday hyear ⊢
    cases hwritten with
    | absolute hdate =>
      obtain ⟨year, hfield, rfl | ⟨rest, rfl⟩⟩ := hdate.exists_year
      · exact hfield
      · exact absurd ⟨year, rest, hfield, rfl⟩ hyear
    | today => exact absurd ⟨[], rfl⟩ htoday
    | shift hshift => exact absurd hshift.exists_eq_append htoday
  · exact absurd hshift.exists_eq_append htoday

/-- A date looks like one unless it is a bare year. -/
theorem looksLikeDate_iff_of_parse {literal : String} {l : DateLiteral}
    (h : parse literal = .ok l) : looksLikeDate literal = true ↔ ¬IsBareYear literal := by
  constructor
  · rw [looksLikeDate_iff]
    rintro (⟨rest, hrest⟩ | ⟨year, rest, hyear, hrest⟩) hbare
    · have hlength := hbare.length_eq
      rw [hrest, List.length_append] at hlength
      exact absurd hlength (by simp +arith)
    · have hmem : '-' ∈ trim literal.toList := by
        rw [hrest]
        exact List.mem_append_right _ List.mem_cons_self
      exact hbare.not_mem hmem
  · intro hbare
    exact Bool.not_eq_false _ ▸ mt (isBareYear_of_parse h) hbare

end DateLiteral

/-! ## Quantities -/

namespace UnitTable

/-- No unit begins with a hyphen. -/
def IsHyphenFree (table : UnitTable) : Prop := ∀ key ∈ table.keys, key.toList.head? ≠ some '-'

instance (table : UnitTable) : Decidable table.IsHyphenFree :=
  inferInstanceAs (Decidable (∀ key ∈ table.keys, key.toList.head? ≠ some '-'))

theorem isHyphenFree_standard : standard.IsHyphenFree := by decide +kernel

/-- What is known as a unit but for the case of letters begins with no hyphen either. -/
theorem IsHyphenFree.not_knows {table : UnitTable} (h : table.IsHyphenFree) (rest : List Char) :
    ¬table.Knows (.ofList ('-' :: rest)) := by
  rintro ⟨⟨key, u⟩, hmem, hequal⟩
  have hkey : key ∈ table.keys := List.mem_map.mpr ⟨_, hmem, rfl⟩
  rw [equalIgnoringCase, decide_eq_true_iff, String.toList_ofList, List.map_cons] at hequal
  cases hcs : key.toList with
  | nil =>
    rw [hcs] at hequal
    contradiction
  | cons c cs =>
    rw [hcs, List.map_cons] at hequal
    obtain rfl : c = '-' := eq_of_toLower_eq rfl (List.cons.inj hequal).1
    exact h key hkey (by rw [hcs, List.head?_cons])

/-- A numeral ends before a hyphen. -/
theorem rest_eq_of_readsAs {digits numeral rest rest' : List Char} {x : Float}
    (hdigits : IsDigits digits) (h : ReadsAs (digits ++ '-' :: rest) numeral rest' x) :
    rest' = '-' :: rest := by
  have hnext : ∀ c ∈ ('-' :: rest).head?, isDigit c = false := by
    rintro c ⟨⟩
    rfl
  obtain ⟨hwhole, hrest⟩ := takeWhile_isDigit_append hdigits.all hnext
  have htake := Decimal.takePrefix?_eq_some
    (Decimal.takeSign_append .none (hdigits.head ('-' :: rest))) hwhole
    (congrArg Decimal.takeFraction hrest) (.inl hdigits.ne_nil)
  obtain ⟨_, _, hstart, -⟩ := h
  exact (hstart.unique (Decimal.startsWith_of_takePrefix? htake rfl)).2.1

/-- What begins with `today` begins with no numeral. -/
theorem not_hasNumeral_today (rest : List Char) : ¬HasNumeral ("today".toList ++ rest) := by
  rintro ⟨numeral, more, negative, q, happend, hwrites⟩
  obtain ⟨sign, c, cs, rfl, hsign, hc⟩ := hwrites.exists_eq_append
  cases hsign with
  | none =>
    obtain rfl : 't' = c := (List.cons.inj happend).1
    exact absurd hc (by decide)
  | plus => exact absurd (List.cons.inj happend).1 (by decide)
  | minus => exact absurd (List.cons.inj happend).1 (by decide)

/-- **No quantity looks like a date.** -/
theorem looksLikeDate_of_parseLiteral {table : UnitTable} (hfree : table.IsHyphenFree)
    {literal : String} {quantity : Quantity} (h : table.parseLiteral literal = .ok quantity) :
    DateLiteral.looksLikeDate literal = false := by
  rw [Bool.eq_false_iff, ne_eq, DateLiteral.looksLikeDate_iff]
  obtain ⟨numeral, rest, x, hreads, hamounts⟩ :=
    parseTagValue?_eq_some_iff.mp (parseLiteral_eq_ok_iff.mp h)
  rintro (⟨more, htoday⟩ | ⟨year, more, hyear, hliteral⟩)
  · rw [htoday] at hreads
    exact not_hasNumeral_today more hreads.hasNumeral
  · rw [hliteral] at hreads
    obtain rfl := rest_eq_of_readsAs hyear.toIsDigits hreads
    have hsuffix : trimStart ('-' :: more) = '-' :: more := rfl
    rw [hsuffix] at hamounts
    rcases exists_amounts_iff.mp ⟨quantity, hamounts⟩ with hempty | hknown
    · cases String.ofList_eq_empty_iff.mp hempty
    · exact hfree.not_knows more hknown

/-- A bare year is a quantity. -/
theorem exists_parseLiteral_of_isBareYear (table : UnitTable) {literal : String}
    (h : DateLiteral.IsBareYear literal) :
    ∃ quantity, table.parseLiteral literal = .ok quantity := by
  have hwrites := Writes.whole .none h.toIsDigits
  have hnumeral : HasNumeral (trim literal.toList) :=
    ⟨_, [], _, _, (List.append_nil _).symm, hwrites⟩
  obtain ⟨numeral, rest, x, hreads⟩ := exists_readsAs hnumeral
  -- the numeral is no shorter than the year
  obtain rfl : rest = [] := by
    obtain ⟨_, _, hstart, -⟩ := hreads
    have hle := hstart.longest (List.append_nil _).symm hwrites
    have hlength := congrArg List.length hstart.eq_append
    rw [List.length_append] at hlength
    change (trim literal.toList).length ≤ numeral.length at hle
    exact List.eq_nil_of_length_eq_zero (by omega)
  have hsome : (table.parseTagValue? literal).isSome :=
    isSome_parseTagValue?_iff.mpr ⟨numeral, [], x, hreads, .inl rfl⟩
  obtain ⟨quantity, hquantity⟩ := Option.isSome_iff_exists.mp hsome
  exact ⟨quantity, parseLiteral_eq_ok_iff.mpr hquantity⟩

end UnitTable

/-! ## Comparisons -/

namespace Predicate

open DateLiteral

variable {table : UnitTable} {key literal : String} {op : Comparison} {p : Predicate}

theorem comparison_of_looksLikeDate (h : looksLikeDate literal = true) :
    comparison table key op literal = .ok p ↔ ∃ l, parse literal = .ok l ∧ date key op l = p := by
  rw [comparison, if_pos h, mapError_eq_ok_iff, map_eq_ok_iff]

theorem comparison_of_not_looksLikeDate (h : looksLikeDate literal = false) :
    comparison table key op literal = .ok p ↔
      ∃ q, table.parseLiteral literal = .ok q ∧ quantity key op q = p := by
  rw [comparison, if_neg (Bool.eq_false_iff.mp h), mapError_eq_ok_iff, map_eq_ok_iff]

theorem comparison_eq_ok_iff (hfree : table.IsHyphenFree) :
    comparison table key op literal = .ok p ↔
      (∃ l, p = date key op l ∧ parse literal = .ok l ∧ ¬IsBareYear literal) ∨
      ∃ q, p = quantity key op q ∧ table.parseLiteral literal = .ok q := by
  cases hlooks : looksLikeDate literal with
  | true =>
    rw [comparison_of_looksLikeDate hlooks]
    constructor
    · rintro ⟨l, hl, rfl⟩
      exact .inl ⟨l, rfl, hl, (looksLikeDate_iff_of_parse hl).mp hlooks⟩
    · rintro (⟨l, rfl, hl, -⟩ | ⟨q, -, hq⟩)
      · exact ⟨l, hl, rfl⟩
      · cases hlooks.symm.trans (UnitTable.looksLikeDate_of_parseLiteral hfree hq)
  | false =>
    rw [comparison_of_not_looksLikeDate hlooks]
    constructor
    · rintro ⟨q, hq, rfl⟩
      exact .inr ⟨q, rfl, hq⟩
    · rintro (⟨l, -, hl, hyear⟩ | ⟨q, rfl, hq⟩)
      · cases hlooks.symm.trans ((looksLikeDate_iff_of_parse hl).mpr hyear)
      · exact ⟨q, hq, rfl⟩

/-- **A comparison is one of dates or of quantities, and never could be either.** No literal that
looks like a date is a quantity, and of those that do not look like one only bare years are dates.
So a comparison compiles just if its literal is a date or a quantity. It is one of dates if the
literal is a date other than a bare year, which includes all dates that are no quantities, and one
of quantities if it is a quantity. -/
theorem reads_comparison (hfree : table.IsHyphenFree) (key : String) (op : Comparison)
    (literal : String) :
    (¬(looksLikeDate literal = true ∧ ∃ q, table.parseLiteral literal = .ok q)) ∧
    (∀ l, parse literal = .ok l → looksLikeDate literal = false → IsBareYear literal) ∧
    (∀ p, ofCondition table (.compares key op literal) = .ok p ↔
      (∃ l, p = date key op l ∧ parse literal = .ok l ∧ ¬IsBareYear literal) ∨
      ∃ q, p = quantity key op q ∧ table.parseLiteral literal = .ok q) ∧
    ((∃ p, ofCondition table (.compares key op literal) = .ok p) ↔
      (∃ l, parse literal = .ok l) ∨ ∃ q, table.parseLiteral literal = .ok q) ∧
    ∀ l, parse literal = .ok l → (∀ q, table.parseLiteral literal ≠ .ok q) →
      ofCondition table (.compares key op literal) = .ok (date key op l) := by
  have hyear : (∀ q, table.parseLiteral literal ≠ .ok q) → ¬IsBareYear literal := by
    intro hnone hbare
    obtain ⟨q, hq⟩ := UnitTable.exists_parseLiteral_of_isBareYear table hbare
    exact hnone q hq
  refine ⟨?_, fun l ↦ isBareYear_of_parse, fun p ↦ comparison_eq_ok_iff hfree, ⟨?_, ?_⟩, ?_⟩
  · rintro ⟨hlooks, q, hq⟩
    cases hlooks.symm.trans (UnitTable.looksLikeDate_of_parseLiteral hfree hq)
  · rintro ⟨p, hp⟩
    rcases (comparison_eq_ok_iff hfree).mp hp with ⟨l, -, hl, -⟩ | ⟨q, -, hq⟩
    · exact .inl ⟨l, hl⟩
    · exact .inr ⟨q, hq⟩
  · intro h
    by_cases hquantity : ∃ q, table.parseLiteral literal = .ok q
    · obtain ⟨q, hq⟩ := hquantity
      exact ⟨_, (comparison_eq_ok_iff hfree).mpr (.inr ⟨q, rfl, hq⟩)⟩
    · obtain ⟨l, hl⟩ := h.resolve_right hquantity
      have hbare := hyear (not_exists.mp hquantity)
      exact ⟨_, (comparison_eq_ok_iff hfree).mpr (.inl ⟨l, rfl, hl, hbare⟩)⟩
  · intro l hl hnone
    exact (comparison_eq_ok_iff hfree).mpr (.inl ⟨l, rfl, hl, hyear hnone⟩)

/-- A bare year goes for a number, although it is a date; with a month it is a date alone. -/
theorem reads_comparison_years :
    UnitTable.standard.IsHyphenFree ∧
      (∃ q, ofCondition .standard (.compares "start_date" .less " 1900 ") =
        .ok (quantity "start_date" .less q)) ∧
      ∃ l, ofCondition .standard (.compares "start_date" .less "1900-06") =
        .ok (date "start_date" .less l) := by
  have hfree := UnitTable.isHyphenFree_standard
  refine ⟨hfree, ?_, ?_⟩
  · have hyear : IsBareYear " 1900 " :=
      (Date.fixedDigits?_eq_some_iff.mp (by decide : _ = some 1900)).1
    obtain ⟨-, -, hiff, hexists, -⟩ := reads_comparison hfree "start_date" .less " 1900 "
    obtain ⟨p, hp⟩ := hexists.mpr (.inr (UnitTable.exists_parseLiteral_of_isBareYear _ hyear))
    rcases (hiff p).mp hp with ⟨l, -, -, hbare⟩ | ⟨q, rfl, -⟩
    · exact absurd hyear hbare
    · exact ⟨q, hp⟩
  · obtain ⟨-, -, hiff, -, -⟩ := reads_comparison hfree "start_date" .less "1900-06"
    have hfields : Date.IsNamedBy ⟨1900, 6, 1, by decide⟩ ["1900".toList, "06".toList] :=
      Date.ofParts?_eq_some_iff.mp (by decide)
    have hl : parse "1900-06" = .ok (.absolute _) := parse_of_spells ⟨_, hfields, by decide⟩
    have hyear : ¬IsBareYear "1900-06" := fun h ↦ absurd h.length_eq (by decide)
    exact ⟨_, (hiff _).mpr (.inl ⟨_, rfl, hl, hyear⟩)⟩

end Predicate

end TagQuery
