import TagQuery.Proofs.Calendar.ShiftOrder
import TagQuery.Proofs.Calendar.Stamp
import TagQuery.Proofs.Calendar.TagDate
import TagQuery.Proofs.Number.Whole
import TagQuery.Proofs.Text.ByteOrder

/-!
# Dates and their spellings

A date is spelled in full with a year, a month and a day, or it is spelled as a year or a month for
the day on which that begins (`spells_iff`). The value of a tag is a date exactly if it has such a
spelling between its gaps (`ofTagValue?_eq_some_iff`).

All spellings in full have the same form, four digits, two and two. Of fields of one width the
smaller in the order of texts has the smaller number (`IsField.lt_iff`). So in the spellings of two
dates the first field that differs decides on the order of the texts as it does on that of the
dates, and the spellings are ordered as the dates are (`SpellsInFull.lt_iff`). In particular a date
has one spelling in full, which is the one that is written (`SpellsInFull.unique`).
-/

namespace TagQuery

open Text

/-! ## The order of fields -/

theorem digitValue_le {c : Char} (h : isDigit c = true) : digitValue c ≤ 9 := by
  have hle := (isDigit_iff.mp h).2
  change c.toNat ≤ 57 at hle
  change c.toNat - 48 ≤ 9
  omega

theorem digitValue_lt_digitValue {c d : Char} (hc : isDigit c = true) (h : c < d) :
    digitValue c < digitValue d := by
  have hmin := (isDigit_iff.mp hc).1
  have hlt : c.toNat < d.toNat := UInt32.lt_iff_toNat_lt.mp h
  change 48 ≤ c.toNat at hmin
  change c.toNat - 48 < d.toNat - 48
  omega

theorem ofDigits_cons (c : Char) (cs : List Char) :
    ofDigits (c :: cs) = digitValue c * 10 ^ cs.length + ofDigits cs := by
  have hsingle : ofDigits [c] = digitValue c := Nat.zero_add _
  rw [← hsingle]
  exact Decimal.ofDigits_append [c] cs

/-- A larger digit outweighs all digits after it. -/
theorem mul_add_lt_mul_add {v w weight m : Nat} (hm : m < weight) (h : v < w) (n : Nat) :
    v * weight + m < w * weight + n :=
  calc v * weight + m < v * weight + weight := Nat.add_lt_add_left hm _
    _ = (v + 1) * weight := (Nat.succ_mul _ _).symm
    _ ≤ w * weight := Nat.mul_le_mul_right _ h
    _ ≤ w * weight + n := Nat.le_add_right _ _

theorem ofDigits_lt_pow {cs : List Char} (h : ∀ c ∈ cs, isDigit c = true) :
    ofDigits cs < 10 ^ cs.length := by
  induction cs with
  | nil => exact Nat.one_pos
  | cons c cs ih =>
    obtain ⟨hc, hcs⟩ := List.forall_mem_cons.mp h
    rw [ofDigits_cons, List.length_cons, Nat.pow_succ']
    exact mul_add_lt_mul_add (ih hcs) (Nat.lt_succ_of_le (digitValue_le hc)) 0

/-- Of two runs of digits of one length, the first digit that differs decides on the numbers. -/
theorem ofDigits_lt_ofDigits {cs ds : List Char} (hlength : cs.length = ds.length)
    (hcs : ∀ c ∈ cs, isDigit c = true) (h : cs < ds) : ofDigits cs < ofDigits ds := by
  induction cs generalizing ds with
  | nil =>
    cases ds with
    | nil => exact absurd h (List.not_lt_nil _)
    | cons d ds => cases hlength
  | cons c cs ih =>
    cases ds with
    | nil => cases hlength
    | cons d ds =>
      obtain ⟨hc, hcs⟩ := List.forall_mem_cons.mp hcs
      have hrest : cs.length = ds.length := Nat.succ.inj hlength
      rw [ofDigits_cons, ofDigits_cons, ← hrest]
      rcases List.cons_lt_cons_iff.mp h with hcd | ⟨rfl, hlt⟩
      · exact mul_add_lt_mul_add (ofDigits_lt_pow hcs) (digitValue_lt_digitValue hc hcd) _
      · exact Nat.add_lt_add_left (ih hrest hcs hlt) _

section Fields

variable {width : Nat} {cs ds : List Char}

theorem IsField.ofDigits_lt (h : IsField width cs) (h' : IsField width ds) (hlt : cs < ds) :
    ofDigits cs < ofDigits ds :=
  ofDigits_lt_ofDigits (h.length_eq.trans h'.length_eq.symm) h.all hlt

/-- **Fields of one width are ordered as their numbers are.** -/
theorem IsField.lt_iff (h : IsField width cs) (h' : IsField width ds) :
    cs < ds ↔ ofDigits cs < ofDigits ds := by
  refine ⟨h.ofDigits_lt h', fun hlt ↦ ?_⟩
  rcases lt_trichotomy cs ds with hbefore | rfl | hafter
  · exact hbefore
  · exact absurd hlt (Nat.lt_irrefl _)
  · exact absurd hlt (Nat.lt_asymm (h'.ofDigits_lt h hafter))

theorem IsField.eq_iff (h : IsField width cs) (h' : IsField width ds) :
    cs = ds ↔ ofDigits cs = ofDigits ds := by
  refine ⟨congrArg ofDigits, fun heq ↦ ?_⟩
  rcases lt_trichotomy cs ds with hbefore | rfl | hafter
  · exact absurd heq (Nat.ne_of_lt (h.ofDigits_lt h' hbefore))
  · rfl
  · exact absurd heq.symm (Nat.ne_of_lt (h'.ofDigits_lt h hafter))

theorem IsField.isWord (h : IsField width cs) : IsWord cs :=
  ⟨h.ne_nil, fun c hc ↦ isBlank_of_isDigit (h.all c hc)⟩

theorem isField_padDigits {n : Nat} (hwidth : 0 < width) (hn : n < Nat.pow 10 width) :
    IsField width (padDigits width n) :=
  ⟨⟨padDigits_ne_nil _ _, fun _ ↦ isDigit_of_mem_padDigits⟩, length_padDigits hwidth hn⟩

/-- Texts with parts of the same lengths are ordered by the first part that differs. -/
theorem append_lt_append_iff {xs xs' : List Char} (hlength : xs.length = xs'.length)
    (ys ys' : List Char) : xs ++ ys < xs' ++ ys' ↔ xs < xs' ∨ xs = xs' ∧ ys < ys' := by
  induction xs generalizing xs' with
  | nil =>
    obtain rfl := List.eq_nil_of_length_eq_zero hlength.symm
    simp
  | cons x xs ih =>
    cases xs' with
    | nil => cases hlength
    | cons x' xs' =>
      rw [List.cons_append, List.cons_append, List.cons_lt_cons_iff, List.cons_lt_cons_iff,
        ih (Nat.succ.inj hlength), List.cons.injEq]
      tauto

end Fields

namespace Date

/-! ## Spellings in full, and others -/

/-- The form of a date in full: four digits, two and two, with hyphens between them. -/
inductive IsFullForm : List Char → Prop where
  | intro {year month day : List Char} (hyear : IsField 4 year) (hmonth : IsField 2 month)
      (hday : IsField 2 day) : IsFullForm (year ++ '-' :: (month ++ '-' :: day))

/-- A text spells a date with its year, its month and its day. -/
inductive SpellsInFull : List Char → Date → Prop where
  | intro {year month day : List Char} {d : Date} (hyear : IsField 4 year)
      (hmonth : IsField 2 month) (hday : IsField 2 day) (hy : d.year = ofDigits year)
      (hm : d.month = ofDigits month) (hd : d.day = ofDigits day) :
      SpellsInFull (year ++ '-' :: (month ++ '-' :: day)) d

/-- A text spells a date as the year or the month that begins with it. -/
inductive SpellsPeriod : List Char → Date → Prop where
  | year {year : List Char} {d : Date} (hyear : IsField 4 year) (hy : d.year = ofDigits year)
      (hm : d.month = 1) (hd : d.day = 1) : SpellsPeriod year d
  | month {year month : List Char} {d : Date} (hyear : IsField 4 year) (hmonth : IsField 2 month)
      (hy : d.year = ofDigits year) (hm : d.month = ofDigits month) (hd : d.day = 1) :
      SpellsPeriod (year ++ '-' :: month) d

private theorem intercalate_two (year month : List Char) :
    ['-'].intercalate [year, month] = year ++ '-' :: month := by
  simp [List.intercalate]

private theorem intercalate_three (year month day : List Char) :
    ['-'].intercalate [year, month, day] = year ++ '-' :: (month ++ '-' :: day) := by
  simp [List.intercalate]

/-- A date is spelled in full, or as a period. -/
theorem spells_iff {cs : List Char} {d : Date} :
    Spells cs d ↔ SpellsInFull cs d ∨ SpellsPeriod cs d := by
  constructor
  · rintro ⟨fields, hfields, rfl⟩
    cases hfields with
    | year hyear hy hm hd =>
      rw [List.intercalate_singleton]
      exact .inr (.year hyear hy hm hd)
    | month hyear hmonth hy hm hd =>
      rw [intercalate_two]
      exact .inr (.month hyear hmonth hy hm hd)
    | day hyear hmonth hday hy hm hd =>
      rw [intercalate_three]
      exact .inl (.intro hyear hmonth hday hy hm hd)
  · rintro (⟨hyear, hmonth, hday, hy, hm, hd⟩ | (⟨hyear, hy, hm, hd⟩ | ⟨hyear, hmonth, hy, hm, hd⟩))
    · exact ⟨_, .day hyear hmonth hday hy hm hd, (intercalate_three _ _ _).symm⟩
    · exact ⟨_, .year hyear hy hm hd, List.intercalate_singleton.symm⟩
    · exact ⟨_, .month hyear hmonth hy hm hd, (intercalate_two _ _).symm⟩

theorem IsFullForm.utf8Length_eq {cs : List Char} (h : IsFullForm cs) : utf8Length cs = 10 := by
  obtain ⟨hyear, hmonth, hday⟩ := h
  rw [utf8Length_append, utf8Length_cons, utf8Length_append, utf8Length_cons, hyear.utf8Length_eq,
    hmonth.utf8Length_eq, hday.utf8Length_eq]
  rfl

theorem SpellsPeriod.utf8Length_lt {cs : List Char} {d : Date} (h : SpellsPeriod cs d) :
    utf8Length cs < 10 := by
  cases h with
  | year hyear =>
    rw [hyear.utf8Length_eq]
    decide
  | month hyear hmonth =>
    rw [utf8Length_append, utf8Length_cons, hyear.utf8Length_eq, hmonth.utf8Length_eq]
    decide

theorem SpellsInFull.isFullForm {cs : List Char} {d : Date} (h : SpellsInFull cs d) :
    IsFullForm cs := by
  obtain ⟨hyear, hmonth, hday, -, -, -⟩ := h
  exact .intro hyear hmonth hday

/-- A text in the form of a date in full spells no period. -/
theorem spellsInFull_iff {cs : List Char} {d : Date} :
    SpellsInFull cs d ↔ IsFullForm cs ∧ Spells cs d := by
  constructor
  · exact fun h ↦ ⟨h.isFullForm, spells_iff.mpr (.inl h)⟩
  · rintro ⟨hform, hspells⟩
    refine (spells_iff.mp hspells).resolve_right fun hperiod ↦ ?_
    exact Nat.ne_of_lt hperiod.utf8Length_lt hform.utf8Length_eq

/-! ## Tag values -/

theorem IsFullForm.isWord {cs : List Char} (h : IsFullForm cs) : IsWord cs := by
  obtain ⟨hyear, hmonth, hday⟩ := h
  exact hyear.isWord.append_cons (by decide) (hmonth.isWord.append_cons (by decide) hday.isWord)

theorem Spells.isWord {cs : List Char} {d : Date} (h : Spells cs d) : IsWord cs := by
  rcases spells_iff.mp h with hfull | (hyear | ⟨hyear, hmonth⟩)
  · exact hfull.isFullForm.isWord
  · exact hyear.isWord
  · exact hyear.isWord.append_cons (by decide) hmonth.isWord

/-- **A tag value is a date if it spells one between two gaps.** -/
theorem ofTagValue?_eq_some_iff {text : String} {d : Date} :
    ofTagValue? text = some d ↔ ∃ cs, HasCore text.toList cs ∧ Spells cs d := by
  rw [ofTagValue?, ofChars?_eq_some_iff]
  constructor
  · intro h
    exact ⟨_, hasCore_trim _, h⟩
  · rintro ⟨cs, hcore, hspells⟩
    rwa [hcore.trim_eq hspells.isWord.isTrimmed hspells.isWord.ne_nil]

/-- In the form of a date in full there is nothing to be trimmed. -/
theorem ofTagValue?_of_isFullForm {text : String} {d : Date} (h : IsFullForm text.toList) :
    ofTagValue? text = some d ↔ SpellsInFull text.toList d := by
  rw [ofTagValue?, ofChars?_eq_some_iff, spellsInFull_iff, trim_of_isTrimmed h.isWord.isTrimmed,
    and_iff_right h]

/-! ## The order of dates in full -/

theorem lt_iff_fields {d e : Date} : d < e ↔
    d.year < e.year ∨ d.year = e.year ∧
      (d.month < e.month ∨ d.month = e.month ∧ d.day < e.day) := by
  obtain ⟨hmonth₁, hmonth₂⟩ := month_mem_of_isDate d.isDate
  obtain ⟨hmonth₃, hmonth₄⟩ := month_mem_of_isDate e.isDate
  have hle : ¬ e ≤ d ↔ d < e := Int.not_le
  rw [← hle, le_iff, monthIndex, monthIndex]
  omega

/-- **Spellings in full are ordered as the dates are.** -/
theorem SpellsInFull.lt_iff {cs ds : List Char} {d e : Date} (h : SpellsInFull cs d)
    (h' : SpellsInFull ds e) : d < e ↔ cs < ds := by
  obtain ⟨hyear, hmonth, hday, hy, hm, hd⟩ := h
  obtain ⟨hyear', hmonth', hday', hy', hm', hd'⟩ := h'
  rw [append_lt_append_iff (hyear.length_eq.trans hyear'.length_eq.symm), List.cons_lt_cons_iff,
    append_lt_append_iff (hmonth.length_eq.trans hmonth'.length_eq.symm), List.cons_lt_cons_iff,
    hyear.lt_iff hyear', hyear.eq_iff hyear', hmonth.lt_iff hmonth', hmonth.eq_iff hmonth',
    hday.lt_iff hday', lt_iff_fields, hy, hy', hm, hm', hd, hd']
  simp

/-- A date has one spelling in full. -/
theorem SpellsInFull.unique {cs ds : List Char} {d : Date} (h : SpellsInFull cs d)
    (h' : SpellsInFull ds d) : cs = ds := by
  have hirrefl : ¬ d < d := Int.lt_irrefl _
  rcases lt_trichotomy cs ds with hlt | heq | hgt
  · exact absurd ((h.lt_iff h').mpr hlt) hirrefl
  · exact heq
  · exact absurd ((h'.lt_iff h).mpr hgt) hirrefl

/-- A date of the years from 0 on is written in full. -/
theorem spellsInFull_toText {d : Date} (h : 0 ≤ d.year) : SpellsInFull d.toText.toList d := by
  have hyear : d.year.natAbs < 10000 := by
    obtain ⟨⟨-, hlast⟩, -⟩ := d.isDate
    omega
  rw [toList_toText h]
  refine .intro (isField_padDigits (by decide) hyear) (isField_padDigits (by decide) d.month_lt)
    (isField_padDigits (by decide) d.day_lt) ?_ ?_ ?_
  · rw [ofDigits_padDigits, Int.natAbs_of_nonneg h]
  · rw [ofDigits_padDigits]
  · rw [ofDigits_padDigits]

/-- **Tag values are read as the dates that they spell.** A text is a date exactly if it spells one
between two gaps. In full every date of the years from 0 on has its own spelling, which is read back,
and the bytes of two such spellings are ordered as the dates are. -/
theorem reads_spellings :
    (∀ text d, ofTagValue? text = some d ↔ ∃ cs, HasCore text.toList cs ∧ Spells cs d) ∧
    (∀ d : Date, 0 ≤ d.year → IsFullForm d.toText.toList ∧ ofTagValue? d.toText = some d) ∧
    (∀ s t d, IsFullForm s.toList → IsFullForm t.toList → s ≠ t →
      ofTagValue? s = some d → ofTagValue? t ≠ some d) ∧
    ∀ s t d e, IsFullForm s.toList → IsFullForm t.toList →
      ofTagValue? s = some d → ofTagValue? t = some e → (d < e ↔ bytes s < bytes t) := by
  refine ⟨fun _ _ ↦ ofTagValue?_eq_some_iff, ?_, ?_, ?_⟩
  · intro d hyear
    have hspells := spellsInFull_toText hyear
    exact ⟨hspells.isFullForm, (ofTagValue?_of_isFullForm hspells.isFullForm).mpr hspells⟩
  · intro s t d hs ht hne hread hread'
    rw [ofTagValue?_of_isFullForm hs] at hread
    rw [ofTagValue?_of_isFullForm ht] at hread'
    exact hne (String.toList_inj.mp (hread.unique hread'))
  · intro s t d e hs ht hread hread'
    rw [ofTagValue?_of_isFullForm hs] at hread
    rw [ofTagValue?_of_isFullForm ht] at hread'
    rw [bytes_lt_bytes_iff, String.lt_iff]
    exact hread.lt_iff hread'

/-- The year 0 has a leap day, and the day after it is spelled with larger bytes. -/
theorem reads_spellings_leap_day :
    let d : Date := ⟨0, 2, 29, by decide⟩
    let e : Date := ⟨0, 3, 1, by decide⟩
    0 ≤ d.year ∧ 0 ≤ e.year ∧ d.toText ≠ e.toText ∧ d < e ∧ ofTagValue? d.toText = some d ∧
      ofTagValue? e.toText ≠ some d ∧ bytes d.toText < bytes e.toText := by
  intro d e
  have hd : 0 ≤ d.year := by decide
  have he : 0 ≤ e.year := by decide
  have hne : d.toText ≠ e.toText := by decide
  have hlt : d < e := by decide
  obtain ⟨-, hwritten, hunique, horder⟩ := reads_spellings
  obtain ⟨hform, hread⟩ := hwritten d hd
  obtain ⟨hform', hread'⟩ := hwritten e he
  exact ⟨hd, he, hne, hlt, hread, hunique _ _ d hform hform' hne hread,
    (horder _ _ d e hform hform' hread hread').mp hlt⟩

-- a part of the right width in bytes is no number if it is not made of digits
example : ofTagValue? "2021-½-01" = none := by decide

end Date

end TagQuery
