import TagQuery.Calendar.TagDate
import TagQuery.Proofs.Calendar.DayNumber
import TagQuery.Proofs.Number.Numeral
import TagQuery.Proofs.Text.Words

/-!
# Dates in tags

A date is spelled as a year, as a year and a month, or as a year, a month and a day, and stands for
the first day of the period that is named (`Date.Spells`). Four digits are a year and two are a
month or a day; no sign, no blank and no digit of another script goes for one. The value of a tag is
read as a date exactly if it spells one, blanks around it aside (`ofChars?_eq_some_iff`).

The reader splits at all hyphens before it looks at the parts. Digits are no hyphens, so a spelling
is split into the fields that it was made of.
-/

namespace TagQuery

open Text

/-- A run of exactly so many digits. -/
structure IsField (width : Nat) (cs : List Char) : Prop extends IsDigits cs where
  length_eq : cs.length = width

theorem IsField.utf8Length_eq {width : Nat} {cs : List Char} (h : IsField width cs) :
    utf8Length cs = width := by
  rw [utf8Length_eq_length Decimal.toNat_lt_of_isDigit h.all, h.length_eq]

theorem IsField.not_mem {width : Nat} {cs : List Char} (h : IsField width cs) : '-' ∉ cs := by
  intro hmem
  exact absurd (h.all _ hmem) (by decide)

namespace Date

/-- The fields that name a date: those of a year or a month for its first day, or those of a day. -/
inductive IsNamedBy (d : Date) : List (List Char) → Prop where
  | year {year : List Char} (hyear : IsField 4 year) (hy : d.year = ofDigits year)
      (hm : d.month = 1) (hd : d.day = 1) : IsNamedBy d [year]
  | month {year month : List Char} (hyear : IsField 4 year) (hmonth : IsField 2 month)
      (hy : d.year = ofDigits year) (hm : d.month = ofDigits month) (hd : d.day = 1) :
      IsNamedBy d [year, month]
  | day {year month day : List Char} (hyear : IsField 4 year) (hmonth : IsField 2 month)
      (hday : IsField 2 day) (hy : d.year = ofDigits year) (hm : d.month = ofDigits month)
      (hd : d.day = ofDigits day) : IsNamedBy d [year, month, day]

/-- A text spells a date: it has the fields that name the date, with hyphens between them. -/
def Spells (cs : List Char) (d : Date) : Prop :=
  ∃ fields, d.IsNamedBy fields ∧ cs = ['-'].intercalate fields

/-- Looking at the bytes comes to looking at the characters, since a digit is one byte. -/
theorem digits?_eq (cs : List Char) : digits? cs = ofDigits? cs := by
  rw [digits?, all_utf8 Decimal.toNat_lt_of_isDigit, ofDigits?]
  cases cs.all isDigit with
  | false => rw [Bool.and_false, if_neg Bool.false_ne_true, if_neg Bool.false_ne_true]
  | true => rw [if_pos rfl]

theorem fixedDigits?_eq_some_iff {width : Nat} {cs : List Char} {n : Nat} :
    fixedDigits? width cs = some n ↔ IsField width cs ∧ ofDigits cs = n := by
  rw [fixedDigits?, digits?_eq]
  constructor
  · intro h
    split at h
    · next hlength =>
      obtain ⟨hdigits, hn⟩ := ofDigits?_eq_some_iff.mp h
      have hfield : IsField cs.length cs := ⟨hdigits, rfl⟩
      exact ⟨⟨hdigits, hfield.utf8Length_eq.symm.trans hlength⟩, hn⟩
    · contradiction
  · rintro ⟨hfield, hn⟩
    rw [if_pos hfield.utf8Length_eq]
    exact ofDigits?_eq_some_iff.mpr ⟨hfield.toIsDigits, hn⟩

theorem ofParts?_eq_some_iff {parts : List (List Char)} {d : Date} :
    ofParts? parts = some d ↔ d.IsNamedBy parts := by
  constructor
  · intro h
    rw [ofParts?.eq_def] at h
    split at h
    · obtain ⟨_, hreads, h⟩ := Option.bind_eq_some_iff.mp h
      obtain ⟨hyear, rfl⟩ := fixedDigits?_eq_some_iff.mp hreads
      obtain ⟨hy, hm, hd⟩ := of?_eq_some_iff.mp h
      exact .year hyear hy hm hd
    · obtain ⟨_, hreads, h⟩ := Option.bind_eq_some_iff.mp h
      obtain ⟨_, hreads', h⟩ := Option.bind_eq_some_iff.mp h
      obtain ⟨hyear, rfl⟩ := fixedDigits?_eq_some_iff.mp hreads
      obtain ⟨hmonth, rfl⟩ := fixedDigits?_eq_some_iff.mp hreads'
      obtain ⟨hy, hm, hd⟩ := of?_eq_some_iff.mp h
      exact .month hyear hmonth hy hm hd
    · obtain ⟨_, hreads, h⟩ := Option.bind_eq_some_iff.mp h
      obtain ⟨_, hreads', h⟩ := Option.bind_eq_some_iff.mp h
      obtain ⟨_, hreads'', h⟩ := Option.bind_eq_some_iff.mp h
      obtain ⟨hyear, rfl⟩ := fixedDigits?_eq_some_iff.mp hreads
      obtain ⟨hmonth, rfl⟩ := fixedDigits?_eq_some_iff.mp hreads'
      obtain ⟨hday, rfl⟩ := fixedDigits?_eq_some_iff.mp hreads''
      obtain ⟨hy, hm, hd⟩ := of?_eq_some_iff.mp h
      exact .day hyear hmonth hday hy hm hd
    · contradiction
  · have hread : ∀ {width cs}, IsField width cs → fixedDigits? width cs = some (ofDigits cs) :=
      fun h ↦ fixedDigits?_eq_some_iff.mpr ⟨h, rfl⟩
    rintro (⟨hyear, hy, hm, hd⟩ | ⟨hyear, hmonth, hy, hm, hd⟩ |
      ⟨hyear, hmonth, hday, hy, hm, hd⟩)
    · rw [ofParts?, hread hyear]
      exact of?_eq_some_iff.mpr ⟨hy, hm, hd⟩
    · rw [ofParts?, hread hyear, hread hmonth]
      exact of?_eq_some_iff.mpr ⟨hy, hm, hd⟩
    · rw [ofParts?, hread hyear, hread hmonth, hread hday]
      exact of?_eq_some_iff.mpr ⟨hy, hm, hd⟩

theorem IsNamedBy.not_mem {d : Date} {fields : List (List Char)} (h : d.IsNamedBy fields) :
    ∀ field ∈ fields, '-' ∉ field := by
  cases h with
  | year hyear => simp [hyear.not_mem]
  | month hyear hmonth => simp [hyear.not_mem, hmonth.not_mem]
  | day hyear hmonth hday => simp [hyear.not_mem, hmonth.not_mem, hday.not_mem]

/-- **A text is read as the date that it spells**, blanks around it aside. -/
theorem ofChars?_eq_some_iff {cs : List Char} {d : Date} :
    ofChars? cs = some d ↔ Spells (trim cs) d := by
  rw [ofChars?, splitAt_eq_splitOnP, ofParts?_eq_some_iff]
  constructor
  · intro h
    exact ⟨_, h, (List.intercalate_splitOn '-').symm⟩
  · rintro ⟨fields, hfields, hspelled⟩
    have hne : fields ≠ [] := by
      rintro rfl
      cases hfields
    have hsplit : (trim cs).splitOnP (· == '-') = fields := by
      rw [hspelled]
      exact List.splitOn_intercalate '-' hfields.not_mem hne
    rwa [hsplit]

/-- A spelling is a year alone, or goes on with a hyphen after the year. -/
theorem Spells.exists_year {cs : List Char} {d : Date} (h : Spells cs d) :
    ∃ year, IsField 4 year ∧ (cs = year ∨ ∃ rest, cs = year ++ '-' :: rest) := by
  obtain ⟨fields, hfields, rfl⟩ := h
  cases hfields with
  | year hyear => exact ⟨_, hyear, .inl List.intercalate_singleton⟩
  | @month year month hyear => exact ⟨year, hyear, .inr ⟨month, by simp [List.intercalate]⟩⟩
  | @day year month day hyear =>
    exact ⟨year, hyear, .inr ⟨month ++ '-' :: day, by simp [List.intercalate]⟩⟩

end Date

end TagQuery
