import TagQuery.Literal.Date
import TagQuery.Proofs.Calendar.TagDate
import TagQuery.Proofs.Except
import TagQuery.Proofs.Number.Whole

/-!
# Reading date literals

A date literal is the spelling of a date, or the word `today`, or that word with a whole number and
a unit after it (`DateLiteral.IsWritten`). The number has at most one sign, and it stays within the
limit of its unit.

Nearly all of this is what the reader accepts (`readsAsWritten_iff`). It takes a plus sign off
before it reads a whole number, though, and a whole number may have a sign of its own. So after a
plus sign a second sign goes through, and of the two it is the second one that counts
(`DateLiteral.IsSignedTwice`): `today +-1 days` is yesterday.

Amounts that are too large are faulty however many digits they have. Which fault is reported depends
on whether the amount fits into a word, but none that fits into no word is within a limit.
-/

namespace TagQuery

open Text

namespace DateUnit

/-- The word for one of a unit. -/
def singular : DateUnit → String
  | days => "day"
  | weeks => "week"
  | months => "month"
  | years => "year"

/-- A word names a unit, in the singular or the plural. -/
def Names (unit : DateUnit) (word : List Char) : Prop :=
  word = unit.singular.toList ∨ word = unit.singular.toList ++ ['s']

theorem ofWord?_eq_some_iff {word : List Char} {unit : DateUnit} :
    ofWord? (.ofList word) = some unit ↔ unit.Names word := by
  constructor
  · intro h
    obtain ⟨text, htext⟩ : ∃ text, String.ofList word = text := ⟨_, rfl⟩
    have hword : word = text.toList := by rw [← htext, String.toList_ofList]
    rw [hword]
    rw [htext, ofWord?.eq_def] at h
    split at h
    case h_1 | h_3 | h_5 | h_7 =>
      cases h
      exact .inl rfl
    case h_2 | h_4 | h_6 | h_8 =>
      cases h
      exact .inr rfl
    case h_9 => contradiction
  · rintro (rfl | rfl)
    · cases unit <;> rfl
    · cases unit <;> rfl

theorem Names.isWord {unit : DateUnit} {word : List Char} (h : unit.Names word) : IsWord word := by
  have hword : IsWord unit.singular.toList ∧ IsWord (unit.singular.toList ++ ['s']) := by
    cases unit <;> exact ⟨by decide, by decide⟩
  rcases h with rfl | rfl
  · exact hword.1
  · exact hword.2

end DateUnit

namespace DateLiteral

/-! ## Written literals -/

/-- A text is the word `today`, an amount after it, and a unit with blanks before it. -/
inductive IsRelative (amount : List Char) (unit : DateUnit) : List Char → Prop where
  | intro {gap gap' word : List Char} (hgap : IsGap gap) (hgap' : IsGap gap') (hne : gap' ≠ [])
      (hword : unit.Names word) :
      IsRelative amount unit ("today".toList ++ (gap ++ (amount ++ (gap' ++ word))))

/-- The texts that write a date literal. -/
inductive IsWritten : List Char → DateLiteral → Prop where
  | absolute {cs : List Char} {d : Date} (h : Date.Spells cs d) : IsWritten cs (.absolute d)
  | today : IsWritten "today".toList (.relative 0 .days)
  | shift {cs amount : List Char} {n : Int} {unit : DateUnit} (h : IsRelative amount unit cs)
      (hamount : Whole.Spells amount n) (hlimit : n.natAbs ≤ unit.limit) :
      IsWritten cs (.relative n unit)

/-- The texts that write a date literal but for a plus sign before the sign of its amount. -/
inductive IsSignedTwice : List Char → DateLiteral → Prop where
  | intro {cs amount : List Char} {n : Int} {unit : DateUnit}
      (h : IsRelative ('+' :: amount) unit cs)
      (hsign : ∃ c ∈ amount.head?, Decimal.isSign c = true) (hamount : Whole.Spells amount n)
      (hlimit : n.natAbs ≤ unit.limit) : IsSignedTwice cs (.relative n unit)

/-! ## Amounts -/

theorem amount?_of_spells {cs : List Char} {n : Int} (h : Whole.Spells cs n) :
    amount? cs = Whole.ofInt? n := by
  obtain ⟨hsign, hdigits⟩ := h
  cases hsign with
  | plus => exact Whole.ofChars?_of_spells (.intro .none hdigits)
  | minus => exact Whole.ofChars?_of_spells (.intro .minus hdigits)
  | none =>
    rename_i digits
    obtain ⟨c, cs, rfl⟩ := List.exists_cons_of_ne_nil hdigits.ne_nil
    have hc : isDigit c = true := hdigits.all c List.mem_cons_self
    rw [← Whole.ofChars?_of_spells (.intro .none hdigits), List.nil_append, amount?]
    rintro _ ⟨⟩
    exact absurd hc (by decide)

/-- An amount is a whole number, or one that has a sign and stands after a plus sign. -/
theorem amount?_eq_some_iff {cs : List Char} {n : Int} :
    amount? cs = some n ↔ Whole.fits n = true ∧
      (Whole.Spells cs n ∨ ∃ amount, cs = '+' :: amount ∧
        (∃ c ∈ amount.head?, Decimal.isSign c = true) ∧ Whole.Spells amount n) := by
  constructor
  · intro h
    rw [amount?.eq_def] at h
    split at h
    · next amount =>
      obtain ⟨⟨hsign, hdigits⟩, hfits⟩ := Whole.ofChars?_eq_some_iff.mp h
      refine ⟨hfits, ?_⟩
      cases hsign with
      | none => exact .inl (.intro .plus hdigits)
      | plus => exact .inr ⟨_, rfl, ⟨'+', rfl, rfl⟩, .intro .plus hdigits⟩
      | minus => exact .inr ⟨_, rfl, ⟨'-', rfl, rfl⟩, .intro .minus hdigits⟩
    · obtain ⟨hspells, hfits⟩ := Whole.ofChars?_eq_some_iff.mp h
      exact ⟨hfits, .inl hspells⟩
  · rintro ⟨hfits, hspells | ⟨amount, rfl, -, hspells⟩⟩
    · rw [amount?_of_spells hspells]
      exact Whole.ofInt?_eq_some_iff.mpr ⟨hfits, rfl⟩
    · exact Whole.ofChars?_eq_some_iff.mpr ⟨hspells, hfits⟩

/-- An amount within the limit of its unit fits into a word. -/
theorem fits_of_natAbs_le {n : Int} {unit : DateUnit} (h : n.natAbs ≤ unit.limit) :
    Whole.fits n = true := by
  have hlimit : unit.limit ≤ 10000000 := by cases unit <;> decide
  rw [Word.fits_iff]
  omega

theorem isWord_plus_cons {cs : List Char} (h : IsWord cs) : IsWord ('+' :: cs) :=
  ⟨List.cons_ne_nil _ _, List.forall_mem_cons.mpr ⟨by decide, h.not_blank⟩⟩

theorem isWord_of_amount? {cs : List Char} {n : Int} (h : amount? cs = some n) : IsWord cs := by
  obtain ⟨-, hspells | ⟨amount, rfl, -, hspells⟩⟩ := amount?_eq_some_iff.mp h
  · exact hspells.isWord
  · exact isWord_plus_cons hspells.isWord

/-! ## Texts -/

theorem afterToday?_eq_some_iff {cs rest : List Char} :
    afterToday? cs = some rest ↔ cs = "today".toList ++ rest := by
  constructor
  · intro h
    rw [afterToday?.eq_def] at h
    split at h
    · cases h
      rfl
    · contradiction
  · rintro rfl
    rfl

theorem IsRelative.exists_eq_append {amount cs : List Char} {unit : DateUnit}
    (h : IsRelative amount unit cs) : ∃ rest, cs = "today".toList ++ rest := by
  obtain ⟨-⟩ := h
  exact ⟨_, rfl⟩

/-- The words after `today` in a text with an amount and a unit. -/
theorem IsRelative.exists_rest {amount cs : List Char} {unit : DateUnit}
    (h : IsRelative amount unit cs) (hamount : IsWord amount) :
    ∃ rest word, cs = "today".toList ++ rest ∧ words rest = [amount, word] ∧
      DateUnit.ofWord? (.ofList word) = some unit := by
  obtain ⟨hgap, hgap', hne, hword⟩ := h
  rename_i gap gap' word
  refine ⟨_, word, rfl, ?_, DateUnit.ofWord?_eq_some_iff.mpr hword⟩
  have hhead : ∀ c ∈ (gap' ++ word).head?, isBlank c = true := by
    obtain ⟨b, bs, rfl⟩ := List.exists_cons_of_ne_nil hne
    rintro c ⟨⟩
    exact hgap' b List.mem_cons_self
  rw [words_gap_append hgap, words_word_append hamount hhead, words_gap_append hgap',
    words_of_isWord hword.isWord]

/-- What a text with an amount and a unit is read as depends on the amount. -/
theorem parse_of_isRelative {text : String} {amount : List Char} {unit : DateUnit}
    (h : IsRelative amount unit (trim text.toList)) (hamount : IsWord amount) :
    parse text =
      match amount? amount with
      | none => .error (.invalidRelativeDate text .offsetNotWhole)
      | some n =>
        if unit.limit < n.natAbs then .error (.invalidRelativeDate text .offsetOutOfRange)
        else .ok (.relative n unit) := by
  obtain ⟨rest, word, htrim, hwords, hunit⟩ := h.exists_rest hamount
  rw [parse, afterToday?_eq_some_iff.mpr htrim]
  dsimp only
  rw [hwords, ofWords]
  cases amount? amount with
  | none => rfl
  | some n =>
    dsimp only
    rw [hunit]
    dsimp only
    rw [if_neg (by simp)]
    split
    · rfl
    · rfl

theorem parse_of_eq_today {text : String} (h : trim text.toList = "today".toList) :
    parse text = .ok (.relative 0 .days) := by
  rw [parse, h]
  rfl

/-- No spelling of a date begins with `today`. -/
theorem afterToday?_of_spells {cs : List Char} {d : Date} (h : Date.Spells cs d) :
    afterToday? cs = none := by
  rw [Option.eq_none_iff_forall_ne_some]
  intro rest hrest
  rw [afterToday?_eq_some_iff] at hrest
  obtain ⟨year, hyear, hcs⟩ := h.exists_year
  obtain ⟨c, year, rfl⟩ := List.exists_cons_of_ne_nil hyear.ne_nil
  have hc : isDigit c = true := hyear.all c List.mem_cons_self
  obtain rfl : 't' = c := by
    rw [hrest] at hcs
    rcases hcs with hcs | ⟨_, hcs⟩
    · exact (List.cons.inj hcs).1
    · exact (List.cons.inj hcs).1
  exact absurd hc (by decide)

theorem parse_of_spells {text : String} {d : Date} (h : Date.Spells (trim text.toList) d) :
    parse text = .ok (.absolute d) := by
  have hdate : Date.ofTagValue? text = some d := Date.ofChars?_eq_some_iff.mpr h
  rw [parse, afterToday?_of_spells h, hdate]

/-- The words that are read as a date relative to today. -/
theorem exists_of_ofWords {ws : List (List Char)} {l : DateLiteral} (h : ofWords ws = .ok l) :
    (ws = [] ∧ l = .relative 0 .days) ∨
    ∃ amount word n unit, ws = [amount, word] ∧ amount? amount = some n ∧
      DateUnit.ofWord? (.ofList word) = some unit ∧ n.natAbs ≤ unit.limit ∧
      l = .relative n unit := by
  rw [ofWords.eq_def] at h
  split at h
  · cases h
    exact .inl ⟨rfl, rfl⟩
  · next amount rest =>
    split at h
    · contradiction
    · next n hamount =>
      split at h
      · contradiction
      · next word trailing =>
        split at h
        · contradiction
        · next unit hunit =>
          split at h
          · contradiction
          · next htrailing =>
            split at h
            · contradiction
            · next hlimit =>
              obtain rfl : trailing = [] := by simpa using htrailing
              cases h
              exact .inr ⟨amount, word, n, unit, rfl, hamount, hunit, Nat.not_lt.mp hlimit, rfl⟩

theorem eq_nil_of_words {rest : List Char} (htrimmed : IsTrimmed ("today".toList ++ rest))
    (hwords : words rest = []) : rest = [] := by
  rcases words_cases rest with ⟨hgap, -⟩ | ⟨_, _, _, _, _, _, _, hcons⟩
  · exact eq_nil_of_isTrimmed_append htrimmed hgap
  · cases hcons.symm.trans hwords

/-- In a trimmed text, an amount and a unit are all that follows `today` if they are its words. -/
theorem isRelative_of_words {rest amount word : List Char} {unit : DateUnit}
    (htrimmed : IsTrimmed ("today".toList ++ rest)) (hwords : words rest = [amount, word])
    (hunit : DateUnit.ofWord? (.ofList word) = some unit) :
    IsRelative amount unit ("today".toList ++ rest) := by
  rcases words_cases rest with ⟨-, hnil⟩ | ⟨gap, w, rest', rfl, hgap, -, hhead, hrest⟩
  · cases hnil.symm.trans hwords
  obtain ⟨rfl, hwords'⟩ := List.cons.inj (hrest.symm.trans hwords)
  rcases words_cases rest' with ⟨-, hnil⟩ | ⟨gap', w', rest'', rfl, hgap', hword, -, hrest'⟩
  · cases hnil.symm.trans hwords'
  obtain ⟨rfl, hwords''⟩ := List.cons.inj (hrest'.symm.trans hwords')
  -- nothing follows the second word, for the text does not end with a gap
  rcases words_cases rest'' with ⟨hgap'', -⟩ | ⟨_, w'', _, _, _, _, _, hcons⟩
  · have happend : IsTrimmed (("today".toList ++ (gap ++ (w ++ (gap' ++ w')))) ++ rest'') := by
      simpa only [List.append_assoc] using htrimmed
    obtain rfl := eq_nil_of_isTrimmed_append happend hgap''
    have hne : gap' ≠ [] := by
      rintro rfl
      obtain ⟨c, cs, rfl⟩ := List.exists_cons_of_ne_nil hword.ne_nil
      have hc : isBlank c = false := hword.not_blank c List.mem_cons_self
      exact Bool.false_ne_true (hc.symm.trans (hhead c rfl))
    rw [List.append_nil]
    exact .intro hgap hgap' hne (DateUnit.ofWord?_eq_some_iff.mp hunit)
  · cases hcons.symm.trans hwords''

theorem isWritten_or_isSignedTwice {text : String} {l : DateLiteral} (h : parse text = .ok l) :
    IsWritten (trim text.toList) l ∨ IsSignedTwice (trim text.toList) l := by
  rw [parse] at h
  split at h
  · split at h
    · next d hd =>
      cases h
      exact .inl (.absolute (Date.ofChars?_eq_some_iff.mp hd))
    · contradiction
  · next rest hrest =>
    rw [afterToday?_eq_some_iff] at hrest
    have htrimmed : IsTrimmed ("today".toList ++ rest) := hrest ▸ isTrimmed_trim _
    rw [hrest]
    rcases exists_of_ofWords (mapError_eq_ok_iff.mp h) with
      ⟨hwords, rfl⟩ | ⟨amount, word, n, unit, hwords, hamount, hunit, hlimit, rfl⟩
    · obtain rfl := eq_nil_of_words htrimmed hwords
      exact .inl .today
    · have hshift := isRelative_of_words htrimmed hwords hunit
      obtain ⟨-, hspells | ⟨amount, rfl, hsign, hspells⟩⟩ := amount?_eq_some_iff.mp hamount
      · exact .inl (.shift hshift hspells hlimit)
      · exact .inr (.intro hshift hsign hspells hlimit)

theorem parse_of_amount? {text : String} {amount : List Char} {n : Int} {unit : DateUnit}
    (h : IsRelative amount unit (trim text.toList)) (hamount : amount? amount = some n)
    (hlimit : n.natAbs ≤ unit.limit) : parse text = .ok (.relative n unit) := by
  rw [parse_of_isRelative h (isWord_of_amount? hamount), hamount]
  exact if_neg (Nat.not_lt.mpr hlimit)

theorem parse_of_isWritten {text : String} {l : DateLiteral}
    (h : IsWritten (trim text.toList) l) : parse text = .ok l := by
  generalize htrim : trim text.toList = cs at h
  cases h with
  | absolute h => exact parse_of_spells (htrim ▸ h)
  | today => exact parse_of_eq_today htrim
  | shift h hspells hlimit =>
    have hamount := amount?_eq_some_iff.mpr ⟨fits_of_natAbs_le hlimit, .inl hspells⟩
    exact parse_of_amount? (htrim ▸ h) hamount hlimit

theorem parse_of_isSignedTwice {text : String} {l : DateLiteral}
    (h : IsSignedTwice (trim text.toList) l) : parse text = .ok l := by
  generalize htrim : trim text.toList = cs at h
  obtain ⟨h, hsign, hspells, hlimit⟩ := h
  have hamount := amount?_eq_some_iff.mpr
    ⟨fits_of_natAbs_le hlimit, .inr ⟨_, rfl, hsign, hspells⟩⟩
  exact parse_of_amount? (htrim ▸ h) hamount hlimit

/-! ## The second sign -/

/-- A text has one amount. -/
theorem IsRelative.amount_unique {amount amount' cs : List Char} {unit unit' : DateUnit}
    (h : IsRelative amount unit cs) (h' : IsRelative amount' unit' cs) (hamount : IsWord amount)
    (hamount' : IsWord amount') : amount = amount' := by
  obtain ⟨rest, word, hcs, hwords, -⟩ := h.exists_rest hamount
  obtain ⟨rest', word', hcs', hwords', -⟩ := h'.exists_rest hamount'
  obtain rfl : rest = rest' := List.append_cancel_left (hcs.symm.trans hcs')
  exact (List.cons.inj (hwords.symm.trans hwords')).1

/-- What is written with one sign has no second one. -/
theorem not_isSign_of_spells {amount : List Char} {n : Int} (h : Whole.Spells ('+' :: amount) n) :
    ¬∃ c ∈ amount.head?, Decimal.isSign c = true := by
  have hdigits : IsDigits amount := by
    generalize hcs : '+' :: amount = cs at h
    obtain ⟨hsign, hdigits⟩ := h
    cases hsign with
    | none =>
      rw [List.nil_append] at hcs
      subst hcs
      exact absurd (hdigits.all '+' List.mem_cons_self) (by decide)
    | plus => exact (List.cons.inj hcs).2 ▸ hdigits
    | minus => exact absurd (List.cons.inj hcs).1 (by decide)
  rintro ⟨c, hc, hsign⟩
  have hdigit : isDigit c = true := hdigits.all c (List.mem_of_mem_head? hc)
  rw [Decimal.isSign, Bool.or_eq_true, decide_eq_true_iff, decide_eq_true_iff] at hsign
  rcases hsign with rfl | rfl
  · exact absurd hdigit (by decide)
  · exact absurd hdigit (by decide)

/-- A literal with a second sign is not written as any literal is. -/
theorem not_isWritten_of_isSignedTwice {cs : List Char} {l l' : DateLiteral}
    (h : IsSignedTwice cs l) : ¬IsWritten cs l' := by
  obtain ⟨hshift, hsign, hspells, -⟩ := h
  rename_i amount n unit
  have hword : IsWord ('+' :: amount) := isWord_plus_cons hspells.isWord
  obtain ⟨rest, word, hcs, hwords, -⟩ := hshift.exists_rest hword
  intro hwritten
  cases hwritten with
  | absolute hdate =>
    have hnone := afterToday?_of_spells hdate
    rw [afterToday?_eq_some_iff.mpr hcs] at hnone
    contradiction
  | today =>
    obtain rfl : rest = [] := by simpa using hcs
    contradiction
  | shift hshift' hspells' =>
    obtain rfl := hshift'.amount_unique hshift hspells'.isWord hword
    exact not_isSign_of_spells hspells' hsign

theorem isTrimmed_of_isRelative {amount cs : List Char} {unit : DateUnit}
    (h : IsRelative amount unit cs) : IsTrimmed cs := by
  obtain ⟨-, -, -, hword⟩ := h
  constructor
  · rintro c ⟨⟩
    decide
  · intro c hc
    rw [← List.append_assoc, ← List.append_assoc, ← List.append_assoc, List.getLast?_append,
      List.getLast?_eq_some_getLast hword.isWord.ne_nil] at hc
    cases hc
    exact hword.isWord.not_blank _ (List.getLast_mem _)

/-! ## The literals that are accepted -/

/-- A text is read as it is written: as the date literal that it writes, and as none if it writes
none. -/
def ReadsAsWritten (text : String) : Prop :=
  ∀ l, parse text = .ok l ↔ IsWritten (trim text.toList) l

/-- **Literals are read as they are written, unless they have a second sign.** One with a second
sign is read as if the first one were not there.

An amount past the limit of its unit is reported, be it too long for a word or not. Every other
amount is read back from its digits, with the sign it has or, if it is not negative, a plus sign or
none. -/
theorem readsAsWritten_iff (text : String) :
    (ReadsAsWritten text ↔ ∀ l, ¬IsSignedTwice (trim text.toList) l) ∧
    (∀ l, IsSignedTwice (trim text.toList) l → parse text = .ok l) ∧
    (∀ amount n unit, IsRelative amount unit (trim text.toList) → Whole.Spells amount n →
      unit.limit < n.natAbs →
        parse text = .error (.invalidRelativeDate text
          (if Whole.fits n then .offsetOutOfRange else .offsetNotWhole))) ∧
    ∀ n unit sign, n.natAbs ≤ unit.limit → IsSign sign (decide (n < 0)) →
      IsRelative (sign ++ Nat.toDigits 10 n.natAbs) unit text.toList →
        parse text = .ok (.relative n unit) := by
  refine ⟨⟨fun h l hl ↦ ?_, fun h l ↦ ?_⟩, fun l ↦ parse_of_isSignedTwice, ?_, ?_⟩
  · exact not_isWritten_of_isSignedTwice hl ((h l).mp (parse_of_isSignedTwice hl))
  · exact ⟨fun hl ↦ (isWritten_or_isSignedTwice hl).resolve_right (h l), parse_of_isWritten⟩
  · intro amount n unit hshift hspells hlimit
    rw [parse_of_isRelative hshift hspells.isWord, amount?_of_spells hspells, Whole.ofInt?]
    by_cases hfits : Whole.fits n = true
    · rw [if_pos hfits, if_pos hfits]
      exact if_pos hlimit
    · rw [if_neg hfits, if_neg hfits]
  · intro n unit sign hlimit hsign hshift
    refine parse_of_isWritten (.shift ?_ (Whole.spells_toDigits hsign) hlimit)
    rwa [trim_of_isTrimmed (isTrimmed_of_isRelative hshift)]

theorem readsAsWritten_iff_months :
    ReadsAsWritten "today-018 month " ∧ parse "today +18 months" = .ok (.relative 18 .months) ∧
      parse "today -99999999999999999999 days" =
        .error (.invalidRelativeDate "today -99999999999999999999 days" .offsetNotWhole) := by
  refine ⟨(readsAsWritten_iff _).1.mpr fun l hl ↦ ?_, ?_, ?_⟩
  · -- what is written with one sign has another amount than what has two
    have hspells : Whole.Spells ['-', '0', '1', '8'] (-18) := .intro .minus (by decide)
    have hshift : IsRelative ['-', '0', '1', '8'] .months (trim "today-018 month ".toList) :=
      @IsRelative.intro _ _ [] [' '] _ (by decide) (by decide) (by decide) (.inl rfl)
    exact not_isWritten_of_isSignedTwice hl (.shift hshift hspells (by decide))
  · have hshift : IsRelative (['+'] ++ Nat.toDigits 10 18) .months "today +18 months".toList :=
      @IsRelative.intro _ _ [' '] [' '] _ (by decide) (by decide) (by decide) (.inr rfl)
    exact (readsAsWritten_iff _).2.2.2 18 .months ['+'] (by decide) .plus hshift
  · have hshift : IsRelative ('-' :: List.replicate 20 '9') .days
        (trim "today -99999999999999999999 days".toList) :=
      @IsRelative.intro _ _ [' '] [' '] _ (by decide) (by decide) (by decide) (.inr rfl)
    have hspells : Whole.Spells ('-' :: List.replicate 20 '9') (-99999999999999999999) :=
      .intro .minus (by decide)
    exact (readsAsWritten_iff _).2.2.1 _ _ _ hshift hspells (by decide)

/-- The text `today +-1 days` writes no literal, but is read as the day before. -/
theorem not_readsAsWritten : ¬∀ text, ReadsAsWritten text := by
  intro h
  have hspells : Whole.Spells ['-', '1'] (-1) := .intro .minus (by decide)
  have hshift : IsRelative ['+', '-', '1'] .days (trim "today +-1 days".toList) :=
    @IsRelative.intro _ _ [' '] [' '] _ (by decide) (by decide) (by decide) (.inr rfl)
  have htwice : IsSignedTwice (trim "today +-1 days".toList) (.relative (-1) .days) :=
    .intro hshift ⟨'-', rfl, rfl⟩ hspells (by decide)
  exact not_isWritten_of_isSignedTwice htwice
    ((h "today +-1 days" _).mp (parse_of_isSignedTwice htwice))

end DateLiteral

end TagQuery
