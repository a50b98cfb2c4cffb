import TagQuery.Proofs.Calendar.Spelling
import TagQuery.Run.Today

/-!
# Reading the date of a run

The date that a run counts from is to be written in full and without blanks, and every date that is
written so is accepted. Of the other texts nearly all are refused (`readsInFull_iff`). But a text is
measured before the blanks come off, and read after. So a year or a month goes through if there are
just as many bytes of blanks around it as it is shorter than a date in full (`IsFilledUp`), and it
stands for the day on which it begins.

Nothing else goes through: a spelling in full takes up all the bytes that there are, so no blank has
room beside it.
-/

namespace TagQuery

open Text

/-- A text with no more bytes than its core has no gaps. -/
theorem Text.HasCore.eq_of_utf8Length_eq {cs core : List Char} (h : HasCore cs core)
    (hlength : utf8Length cs = utf8Length core) : cs = core := by
  obtain ⟨before, after, -, -, rfl⟩ := h
  rw [utf8Length_append, utf8Length_append] at hlength
  have hnil : ∀ {gap : List Char}, utf8Length gap = 0 → gap = [] := by
    intro gap hzero
    by_contra hne
    exact Nat.ne_of_gt (Decimal.utf8Length_pos hne) hzero
  rw [hnil (by omega : utf8Length before = 0), hnil (by omega : utf8Length after = 0),
    List.nil_append, List.append_nil]

namespace Today

/-- A text is as long as a date in full, but spells a year or a month between two gaps. -/
def IsFilledUp (cs : List Char) (d : Date) : Prop :=
  utf8Length cs = width ∧ ∃ core, HasCore cs core ∧ Date.SpellsPeriod core d

variable {text : String} {d : Date}

theorem ofText_eq_ok_iff_ofTagValue? :
    ofText text = .ok d ↔ utf8Length text.toList = width ∧ Date.ofTagValue? text = some d := by
  rw [ofText]
  split
  · next hlength =>
    rw [and_iff_right hlength]
    cases Date.ofTagValue? text with
    | some d => simp
    | none => simp
  · next hlength => simp [hlength]

/-- A text is accepted if it spells a date in full, or a period that is filled up with blanks. -/
theorem ofText_eq_ok_iff :
    ofText text = .ok d ↔ Date.SpellsInFull text.toList d ∨ IsFilledUp text.toList d := by
  rw [ofText_eq_ok_iff_ofTagValue?, Date.ofTagValue?_eq_some_iff]
  constructor
  · rintro ⟨hlength, core, hcore, hspells⟩
    rcases Date.spells_iff.mp hspells with hfull | hperiod
    · have heq : text.toList = core :=
        hcore.eq_of_utf8Length_eq (hlength.trans hfull.isFullForm.utf8Length_eq.symm)
      exact .inl (heq ▸ hfull)
    · exact .inr ⟨hlength, core, hcore, hperiod⟩
  · rintro (hfull | ⟨hlength, core, hcore, hperiod⟩)
    · exact ⟨hfull.isFullForm.utf8Length_eq, _, .refl _, Date.spells_iff.mpr (.inl hfull)⟩
    · exact ⟨hlength, core, hcore, Date.spells_iff.mpr (.inr hperiod)⟩

/-- What is filled up is spelled in no other way. -/
theorem not_spellsInFull_of_isFilledUp {cs : List Char} {e : Date} (h : IsFilledUp cs d) :
    ¬Date.SpellsInFull cs e := by
  rintro hfull
  obtain ⟨-, core, hcore, hperiod⟩ := h
  have hword := (Date.spells_iff.mpr (.inr hperiod)).isWord
  have htrim : trim cs = core := hcore.trim_eq hword.isTrimmed hword.ne_nil
  rw [trim_of_isTrimmed hfull.isFullForm.isWord.isTrimmed] at htrim
  exact Nat.ne_of_lt hperiod.utf8Length_lt (htrim ▸ hfull.isFullForm.utf8Length_eq)

theorem ofText_eq_error_iff {fault : Fault} :
    ofText text = .error fault ↔
      (utf8Length text.toList ≠ width ∧ fault = .wrongLength text) ∨
      (utf8Length text.toList = width ∧ (∀ d, ofText text ≠ .ok d) ∧ fault = .noDate text) := by
  simp only [ne_eq, ofText]
  split
  · next hlength =>
    cases Date.ofTagValue? text with
    | some d => simp [hlength]
    | none => simp [hlength, eq_comm]
  · next hlength => simp [hlength, eq_comm]

/-! ## The texts that are accepted -/

/-- A text is read in full: as the date that it spells in full, and as none if it spells none so. -/
def ReadsInFull (text : String) : Prop :=
  ∀ d, ofText text = .ok d ↔ Date.SpellsInFull text.toList d

/-- **Dates are read in full, unless blanks fill up a year or a month.** What is filled up stands for
the day on which the year or the month begins. Every other text is refused, for its length in bytes
or else because it is no date. -/
theorem readsInFull_iff (text : String) :
    (ReadsInFull text ↔ ∀ d, ¬IsFilledUp text.toList d) ∧
    (∀ d, IsFilledUp text.toList d →
      ofText text = .ok d ∧ ∀ e, ¬Date.SpellsInFull text.toList e) ∧
    (∀ d, Date.SpellsInFull text.toList d → ofText text = .ok d) ∧
    ∀ fault, ofText text = .error fault ↔
      (utf8Length text.toList ≠ width ∧ fault = .wrongLength text) ∨
      (utf8Length text.toList = width ∧
        (∀ d, ¬Date.SpellsInFull text.toList d ∧ ¬IsFilledUp text.toList d) ∧
        fault = .noDate text) := by
  have hfilled : ∀ d, IsFilledUp text.toList d → ofText text = .ok d := fun d h ↦
    ofText_eq_ok_iff.mpr (.inr h)
  refine ⟨⟨fun h d hd ↦ ?_, fun h d ↦ ?_⟩, fun d hd ↦ ⟨hfilled d hd, fun e ↦ ?_⟩,
    fun d hd ↦ ofText_eq_ok_iff.mpr (.inl hd), fun fault ↦ ?_⟩
  · exact not_spellsInFull_of_isFilledUp hd ((h d).mp (hfilled d hd))
  · rw [ofText_eq_ok_iff, or_iff_left (h d)]
  · exact not_spellsInFull_of_isFilledUp hd
  · simp only [ofText_eq_error_iff, ne_eq, ofText_eq_ok_iff, not_or]

/-- The leap day is read in full. A year with six bytes of blanks around it, one blank of three bytes
among them, is as long, and a month alone is too short. -/
theorem readsInFull_iff_leap_day :
    Date.SpellsInFull "2024-02-29".toList ⟨2024, 2, 29, by decide⟩ ∧
      IsFilledUp "\u3000 2024  ".toList ⟨2024, 1, 1, by decide⟩ ∧
      ofText "2024-02-29" = .ok ⟨2024, 2, 29, by decide⟩ ∧
      ofText "\u3000 2024  " = .ok ⟨2024, 1, 1, by decide⟩ ∧
      ofText "2024-02" = .error (.wrongLength "2024-02") := by
  have hfull : Date.SpellsInFull "2024-02-29".toList ⟨2024, 2, 29, by decide⟩ :=
    @Date.SpellsInFull.intro "2024".toList "02".toList "29".toList _ ⟨by decide, rfl⟩
      ⟨by decide, rfl⟩ ⟨by decide, rfl⟩ rfl rfl rfl
  have hperiod : Date.SpellsPeriod "2024".toList ⟨2024, 1, 1, by decide⟩ :=
    .year ⟨by decide, rfl⟩ rfl rfl rfl
  have hcore : HasCore "\u3000 2024  ".toList "2024".toList :=
    ⟨['\u3000', ' '], [' ', ' '], by decide, by decide, rfl⟩
  have hfilled : IsFilledUp "\u3000 2024  ".toList ⟨2024, 1, 1, by decide⟩ :=
    ⟨by decide, _, hcore, hperiod⟩
  exact ⟨hfull, hfilled, (readsInFull_iff "2024-02-29").2.2.1 _ hfull,
    ((readsInFull_iff "\u3000 2024  ").2.1 _ hfilled).1,
    ((readsInFull_iff "2024-02").2.2.2 _).mpr (.inl ⟨by decide, rfl⟩)⟩

/-- A month with three blanks after it is read as its first day. -/
theorem not_readsInFull : ¬∀ text, ReadsInFull text := by
  intro h
  have hperiod : Date.SpellsPeriod "2024-02".toList ⟨2024, 2, 1, by decide⟩ :=
    @Date.SpellsPeriod.month "2024".toList "02".toList _ ⟨by decide, rfl⟩ ⟨by decide, rfl⟩ rfl rfl
      rfl
  have hcore : HasCore "2024-02   ".toList "2024-02".toList :=
    ⟨[], [' ', ' ', ' '], by decide, by decide, rfl⟩
  have hfilled : IsFilledUp "2024-02   ".toList ⟨2024, 2, 1, by decide⟩ :=
    ⟨by decide, _, hcore, hperiod⟩
  exact not_spellsInFull_of_isFilledUp hfilled
    ((h "2024-02   " _).mp (ofText_eq_ok_iff.mpr (.inr hfilled)))

end Today

end TagQuery
