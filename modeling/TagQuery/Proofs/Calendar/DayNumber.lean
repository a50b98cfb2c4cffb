import TagQuery.Calendar.Shift

/-!
# Counting days

Day numbers count the days of the calendar without gaps. The date that is found for a number is the
date that has it (`ofDayNumber?_eq_some_iff`), and the numbers of dates are those from the first
day of the calendar to the last (`exists_dayNumber_iff`).

## Why the search for the year ends well

The year of a day is estimated by the mean length of a year, 146097 days in 400 years. Leap years
are spread unevenly, so the first day of a year deviates from its mean position, but by less than a
year in either direction. The year of a day is therefore the estimate or one of its neighbours
(`yearOfDay_eq_iff`), for every number and not just within the calendar.
-/

namespace TagQuery

/-! ## Years -/

theorem firstDayOfYear_mono {a b : Int} (h : a ≤ b) : firstDayOfYear a ≤ firstDayOfYear b := by
  unfold firstDayOfYear leapYearsBefore
  omega

/-- A year is as long as its months. -/
theorem firstDayOfYear_succ (year : Int) :
    firstDayOfYear (year + 1) = firstDayOfYear year + daysBeforeMonth year 13 := by
  have hlength : daysBeforeMonth year 13 = if isLeapYear year then 366 else 365 := by
    simp only [daysBeforeMonth, daysInMonth]
    split <;> rfl
  rw [hlength]
  unfold firstDayOfYear leapYearsBefore isLeapYear
  split <;> simp only [Bool.and_eq_true, Bool.or_eq_true, beq_iff_eq, bne_iff_ne] at * <;> omega

theorem yearOfDay_eq_iff {n year : Int} :
    yearOfDay n = year ↔ firstDayOfYear year ≤ n ∧ n < firstDayOfYear (year + 1) := by
  have hbefore : firstDayOfYear (400 * n / 146097 - 1) ≤ n := by
    unfold firstDayOfYear leapYearsBefore
    omega
  have hafter : n < firstDayOfYear (400 * n / 146097 + 1 + 1) := by
    unfold firstDayOfYear leapYearsBefore
    omega
  have hmem : firstDayOfYear (yearOfDay n) ≤ n ∧ n < firstDayOfYear (yearOfDay n + 1) := by
    unfold yearOfDay
    dsimp only
    split
    · next h => exact ⟨h, hafter⟩
    · next h =>
      split
      · next h' => exact ⟨h', Int.not_le.mp h⟩
      · next h' =>
        rw [Int.sub_add_cancel]
        exact ⟨hbefore, Int.not_le.mp h'⟩
  constructor
  · rintro rfl
    exact hmem
  · rintro ⟨hfirst, hlast⟩
    -- the days of an earlier year are over when a later one begins
    have hle : ¬ yearOfDay n < year := by
      intro hlt
      have hmono : firstDayOfYear (yearOfDay n + 1) ≤ firstDayOfYear year := firstDayOfYear_mono hlt
      omega
    have hge : ¬ year < yearOfDay n := by
      intro hlt
      have hmono : firstDayOfYear (year + 1) ≤ firstDayOfYear (yearOfDay n) :=
        firstDayOfYear_mono hlt
      omega
    omega

/-! ## Months -/

theorem daysBeforeMonth_mono (year : Int) {m n : Nat} (h : m ≤ n) :
    daysBeforeMonth year m ≤ daysBeforeMonth year n := by
  induction h with
  | refl => exact Nat.le_refl _
  | step _ ih => exact Nat.le_trans ih (Nat.le_add_right _ _)

/-- A day within the months that remain is found in one of them. -/
theorem exists_monthAndDay (year : Int) (month count n : Nat)
    (h : daysBeforeMonth year month + n < daysBeforeMonth year (month + count)) :
    ∃ m day, Date.monthAndDay year (List.range' month count) n = some (m, day) ∧
      1 ≤ day ∧ day ≤ daysInMonth year m ∧
      daysBeforeMonth year m + day = daysBeforeMonth year month + n + 1 := by
  induction count generalizing month n with
  | zero =>
    rw [Nat.add_zero] at h
    omega
  | succ count ih =>
    rw [List.range'_succ, Date.monthAndDay]
    split
    · next hn => exact ⟨month, n + 1, rfl, by omega, by omega, by omega⟩
    · next hn =>
      have hnext : daysBeforeMonth year (month + 1) =
          daysBeforeMonth year month + daysInMonth year month := rfl
      have hmonth : month + 1 + count = month + (count + 1) := by omega
      obtain ⟨m, day, hm, hpos, hle, hsum⟩ :=
        ih (month + 1) (n - daysInMonth year month) (by rw [hmonth]; omega)
      exact ⟨m, day, hm, hpos, hle, by omega⟩

/-! ## Dates -/

namespace Date

theorem of?_eq_some_iff {year : Int} {month day : Nat} {d : Date} :
    of? year month day = some d ↔ d.year = year ∧ d.month = month ∧ d.day = day := by
  rw [of?]
  split
  · next h =>
    rw [Option.some.injEq]
    constructor
    · rintro rfl
      exact ⟨rfl, rfl, rfl⟩
    · rintro ⟨hyear, hmonth, hday⟩
      exact Date.ext hyear.symm hmonth.symm hday.symm
  · next h =>
    constructor
    · intro hnone
      cases hnone
    · rintro ⟨rfl, rfl, rfl⟩
      exact absurd d.isDate h

theorem dayNumber_mem_year (d : Date) :
    firstDayOfYear d.year ≤ d.dayNumber ∧ d.dayNumber < firstDayOfYear (d.year + 1) := by
  obtain ⟨-, hpos, hle⟩ := d.isDate
  have hmonth := (month_mem_of_isDate d.isDate).2
  have hnext : daysBeforeMonth d.year (d.month + 1) =
      daysBeforeMonth d.year d.month + daysInMonth d.year d.month := rfl
  have hmono : daysBeforeMonth d.year (d.month + 1) ≤ daysBeforeMonth d.year 13 :=
    daysBeforeMonth_mono d.year (by omega)
  rw [firstDayOfYear_succ, dayNumber]
  omega

theorem yearOfDay_dayNumber (d : Date) : yearOfDay d.dayNumber = d.year :=
  yearOfDay_eq_iff.mpr d.dayNumber_mem_year

/-- Days of different dates have different numbers. -/
theorem dayNumber_injective {d e : Date} (h : d.dayNumber = e.dayNumber) : d = e := by
  have hyear : d.year = e.year := by rw [← yearOfDay_dayNumber d, h, yearOfDay_dayNumber]
  obtain ⟨-, hpos, hle⟩ := d.isDate
  obtain ⟨-, hpos', hle'⟩ := e.isDate
  rw [dayNumber, dayNumber, hyear] at h
  rw [hyear] at hle
  have hnext : ∀ month, daysBeforeMonth e.year (month + 1) =
      daysBeforeMonth e.year month + daysInMonth e.year month := fun _ ↦ rfl
  have hd := hnext d.month
  have he := hnext e.month
  have hmonth : d.month = e.month := by
    rcases Nat.lt_trichotomy d.month e.month with hlt | heq | hlt
    · have hmono : daysBeforeMonth e.year (d.month + 1) ≤ daysBeforeMonth e.year e.month :=
        daysBeforeMonth_mono e.year hlt
      omega
    · exact heq
    · have hmono : daysBeforeMonth e.year (e.month + 1) ≤ daysBeforeMonth e.year d.month :=
        daysBeforeMonth_mono e.year hlt
      omega
  rw [hmonth] at h
  exact Date.ext hyear hmonth (by omega)

/-- What is looked up for a number are the parts of the day with that number. -/
theorem exists_ofDayNumber?_eq (n : Int) :
    ∃ month day, ofDayNumber? n = of? (yearOfDay n) month day ∧
      1 ≤ day ∧ day ≤ daysInMonth (yearOfDay n) month ∧
      firstDayOfYear (yearOfDay n) + daysBeforeMonth (yearOfDay n) month + day - 1 = n := by
  obtain ⟨hfirst, hlast⟩ := yearOfDay_eq_iff.mp (rfl : yearOfDay n = yearOfDay n)
  rw [firstDayOfYear_succ] at hlast
  have hzero : daysBeforeMonth (yearOfDay n) 1 = 0 := rfl
  obtain ⟨month, day, hfound, hpos, hle, hsum⟩ :=
    exists_monthAndDay (yearOfDay n) 1 12 (n - firstDayOfYear (yearOfDay n)).toNat
      (show _ < daysBeforeMonth (yearOfDay n) 13 by omega)
  refine ⟨month, day, ?_, hpos, hle, by omega⟩
  have hmonths : List.range' 1 12 = [1, 2, 3, 4, 5, 6, 7, 8, 9, 10, 11, 12] := rfl
  rw [hmonths] at hfound
  rw [ofDayNumber?, hfound, Option.bind_some]

/-- **The date found for a number is the one that has it.** -/
theorem ofDayNumber?_eq_some_iff {n : Int} {d : Date} :
    ofDayNumber? n = some d ↔ d.dayNumber = n := by
  obtain ⟨month, day, hfound, hpos, hle, hsum⟩ := exists_ofDayNumber?_eq n
  have hnumber : ∀ {e : Date}, ofDayNumber? n = some e → e.dayNumber = n := by
    intro e he
    rw [hfound, of?_eq_some_iff] at he
    obtain ⟨hyear, hmonth, hday⟩ := he
    rw [dayNumber, hyear, hmonth, hday, hsum]
  constructor
  · exact hnumber
  · intro hd
    have hyear : yearOfDay n = d.year := by rw [← hd, yearOfDay_dayNumber]
    have hdate : IsDate (yearOfDay n) month day := ⟨hyear ▸ d.isDate.1, hpos, hle⟩
    have hsome : ofDayNumber? n = some ⟨yearOfDay n, month, day, hdate⟩ := by
      rw [hfound, of?, dif_pos hdate]
    have heq : d = ⟨yearOfDay n, month, day, hdate⟩ :=
      dayNumber_injective (hd.trans (hnumber hsome).symm)
    rw [hsome, heq]

/-- The numbers of dates have no gaps. -/
theorem exists_dayNumber_iff {n : Int} :
    (∃ d : Date, d.dayNumber = n) ↔ first.dayNumber ≤ n ∧ n ≤ last.dayNumber := by
  have hfirst : first.dayNumber = firstDayOfYear (-9999) := by decide
  have hlast : last.dayNumber + 1 = firstDayOfYear (9999 + 1) := by decide
  constructor
  · rintro ⟨d, rfl⟩
    obtain ⟨hyear₁, hyear₂⟩ := d.isDate.1
    obtain ⟨hmem₁, hmem₂⟩ := d.dayNumber_mem_year
    have hmono₁ : firstDayOfYear (-9999) ≤ firstDayOfYear d.year := firstDayOfYear_mono hyear₁
    have hmono₂ : firstDayOfYear (d.year + 1) ≤ firstDayOfYear (9999 + 1) :=
      firstDayOfYear_mono (by omega)
    omega
  · rintro ⟨hn₁, hn₂⟩
    obtain ⟨month, day, hfound, hpos, hle, hsum⟩ := exists_ofDayNumber?_eq n
    obtain ⟨hmem₁, hmem₂⟩ := yearOfDay_eq_iff.mp (rfl : yearOfDay n = yearOfDay n)
    have hyear₁ : -9999 ≤ yearOfDay n := by
      apply Int.not_lt.mp
      intro hlt
      have hmono : firstDayOfYear (yearOfDay n + 1) ≤ firstDayOfYear (-9999) :=
        firstDayOfYear_mono hlt
      omega
    have hyear₂ : yearOfDay n ≤ 9999 := by
      apply Int.not_lt.mp
      intro hlt
      have hmono : firstDayOfYear (9999 + 1) ≤ firstDayOfYear (yearOfDay n) :=
        firstDayOfYear_mono hlt
      omega
    exact ⟨⟨yearOfDay n, month, day, ⟨hyear₁, hyear₂⟩, hpos, hle⟩, hsum⟩

end Date

end TagQuery
