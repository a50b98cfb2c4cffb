import TagQuery.Calendar.Date
import TagQuery.Number.Word

/-!
# Shifting dates

A date is shifted by days, or by months. A shift by days moves the day number. A shift by months
moves the month, and keeps the day of the month unless the target month is too short for it, when
it takes that month's last day. Shifts that leave the calendar end at its first or last day, by
the direction of the shift.

## Shifting in words

A program shifts dates in words. Spans of days are turned into seconds there, the day of the month
is found by trying one day after the other, and any step may leave the range of its word. The second
half of this file has these computations, with every step checked. They give the shifts by whole
numbers: always for months (`addMonths?_eq`), since a sum that leaves its word lies outside the
calendar, and for days and weeks as long as the seconds fit (`addDays?_eq`, `addWeeks?_eq`).
-/

namespace TagQuery.Date

/-- The end of the calendar that lies in the direction of a shift. -/
def calendarEnd (shift : Int) : Date := if shift < 0 then first else last

/-- The date some days later, or earlier for a negative number of days. -/
def addDays (d : Date) (days : Int) : Date :=
  (ofDayNumber? (d.dayNumber + days)).getD (calendarEnd days)

/-- The number of months from the start of the year 0 to the month of a date. -/
def monthIndex (d : Date) : Int := 12 * d.year + d.month - 1

/-- The date some months later, or earlier for a negative number of months. -/
def addMonths (d : Date) (months : Int) : Date :=
  let index := d.monthIndex + months
  let year := index / 12
  let month := (index % 12).toNat + 1
  (of? year month (min d.day (daysInMonth year month))).getD (calendarEnd months)

/-! ## Days and weeks in words -/

/-- The date some seconds later, of which only whole days count. -/
def addSeconds (d : Date) (seconds : Int64) : Date :=
  (ofDayNumber? (d.dayNumber + seconds.toInt.tdiv 86400)).getD (calendarEnd seconds.toInt)

/-- The date some days later, unless their seconds do not fit into a word. -/
def addDays? (d : Date) (days : Int64) : Option Date := (Word.mul? days 86400).map d.addSeconds

/-- The date some weeks later, unless their seconds do not fit into a word. -/
def addWeeks? (d : Date) (weeks : Int64) : Option Date := (Word.mul? weeks 604800).map d.addSeconds

/-- Seconds that make whole days shift by these days. -/
theorem addSeconds_eq (d : Date) {seconds : Int64} {n : Int} (h : seconds.toInt = 86400 * n) :
    d.addSeconds seconds = d.addDays n := by
  have hdays : seconds.toInt.tdiv 86400 = n := by
    rw [h]
    exact Int.mul_tdiv_cancel_left n (by decide)
  have hend : calendarEnd seconds.toInt = calendarEnd n := by
    have hsign : seconds.toInt < 0 ↔ n < 0 := by omega
    simp only [calendarEnd, hsign]
  rw [addSeconds, addDays, hdays, hend]

theorem addDays?_eq (d : Date) {days : Int64}
    (hmin : -1000000000000 ≤ days.toInt) (hmax : days.toInt ≤ 1000000000000) :
    d.addDays? days = some (d.addDays days.toInt) := by
  obtain ⟨seconds, hs, hseconds⟩ :
      ∃ w, Word.mul? days 86400 = some w ∧ w.toInt = 86400 * days.toInt :=
    Word.exists_ofInt? (Int.mul_comm _ _) (by omega) (by omega)
  rw [addDays?, hs, Option.map_some, d.addSeconds_eq hseconds]

theorem addWeeks?_eq (d : Date) {weeks : Int64}
    (hmin : -1000000000000 ≤ weeks.toInt) (hmax : weeks.toInt ≤ 1000000000000) :
    d.addWeeks? weeks = some (d.addDays (7 * weeks.toInt)) := by
  obtain ⟨seconds, hs, hseconds⟩ :
      ∃ w, Word.mul? weeks 604800 = some w ∧ w.toInt = 604800 * weeks.toInt :=
    Word.exists_ofInt? (Int.mul_comm _ _) (by omega) (by omega)
  have hdays : seconds.toInt = 86400 * (7 * weeks.toInt) := by omega
  rw [addWeeks?, hs, Option.map_some, d.addSeconds_eq hdays]

/-! ## Months in words -/

/-- The date in a month on a given day, or on the last day before it that the month has. Days up to
the 28th are there in every month. -/
def ofAtMost? (year : Int) (month : Nat) : Nat → Option Date
  | 0 => of? year month 0
  | day + 1 =>
    if day + 1 ≤ 28 then of? year month (day + 1)
    else (of? year month (day + 1)).or (ofAtMost? year month day)

/-- The number of months from the start of the year 0 to the month of a date, as a word. -/
def monthIndex? (d : Date) : Option Int64 := do
  let months ← Word.mul? (← Word.ofInt? d.year) 12
  let sum ← Word.add? months (← Word.ofInt? d.month)
  Word.sub? sum 1

/-- The date some months later, where a sum of months that does not fit into a word counts as one
outside the calendar. -/
def addMonths? (d : Date) (months : Int64) : Option Date := do
  match Word.add? (← d.monthIndex?) months with
  | none => return calendarEnd months.toInt
  | some index =>
    let year ← Word.div? index 12
    if year.toInt < first.year ∨ last.year < year.toInt then return calendarEnd months.toInt
    else
      let month ← Word.succ? (← Word.toUInt8? (← Word.mod? index 12))
      let year ← Word.toInt32? year
      return (ofAtMost? year.toInt month.toNat d.day).getD (calendarEnd months.toInt)

theorem month_mem_of_isDate {year : Int} {month day : Nat} (h : IsDate year month day) :
    1 ≤ month ∧ month ≤ 12 := by
  obtain ⟨-, hpos, hle⟩ := h
  unfold daysInMonth at hle
  split at hle <;> omega

theorem le_daysInMonth (year : Int) {month : Nat} (h₁ : 1 ≤ month) (h₂ : month ≤ 12) :
    28 ≤ daysInMonth year month := by
  unfold daysInMonth
  split <;> grind

theorem of?_eq_none {year : Int} {month day : Nat} (h : ¬ IsDate year month day) :
    of? year month day = none := dif_neg h

theorem ofAtMost?_eq (year : Int) {month day : Nat} (h₁ : 1 ≤ month) (h₂ : month ≤ 12) :
    ofAtMost? year month day = of? year month (min day (daysInMonth year month)) := by
  have hdays := le_daysInMonth year h₁ h₂
  induction day with
  | zero => rw [ofAtMost?, Nat.zero_min]
  | succ day ih =>
    rw [ofAtMost?]
    split
    · rw [Nat.min_eq_left (by omega)]
    · rw [ih]
      by_cases hday : day + 1 ≤ daysInMonth year month
      · -- the month has the day, so only the year can keep it out of the calendar
        rw [Nat.min_eq_left hday, Nat.min_eq_left (by omega)]
        by_cases hyear : -9999 ≤ year ∧ year ≤ 9999
        · rw [of?, dif_pos ⟨hyear, by omega, hday⟩, Option.some_or]
        · rw [of?_eq_none fun h ↦ hyear h.1, of?_eq_none fun h ↦ hyear h.1, Option.none_or]
      · rw [of?_eq_none fun h ↦ hday h.2.2, Option.none_or, Nat.min_eq_right (by omega),
          Nat.min_eq_right (by omega)]

theorem exists_monthIndex? (d : Date) :
    ∃ w, d.monthIndex? = some w ∧ w.toInt = d.monthIndex := by
  obtain ⟨hmonth₁, hmonth₂⟩ := month_mem_of_isDate d.isDate
  obtain ⟨hyear₁, hyear₂⟩ := d.isDate.1
  obtain ⟨year, hy, hyear⟩ : ∃ w, Word.ofInt? d.year = some w ∧ w.toInt = d.year :=
    Word.exists_ofInt? rfl (by omega) (by omega)
  obtain ⟨months, hms, hmonths⟩ : ∃ w, Word.mul? year 12 = some w ∧ w.toInt = d.year * 12 :=
    Word.exists_ofInt? (by rw [hyear]; rfl) (by omega) (by omega)
  obtain ⟨month, hm, hmonth⟩ : ∃ w, Word.ofInt? d.month = some w ∧ w.toInt = d.month :=
    Word.exists_ofInt? rfl (by omega) (by omega)
  obtain ⟨sum, hs, hsum⟩ :
      ∃ w, Word.add? months month = some w ∧ w.toInt = d.year * 12 + d.month :=
    Word.exists_ofInt? (by rw [hmonths, hmonth]) (by omega) (by omega)
  obtain ⟨index, hi, hindex⟩ :
      ∃ w, Word.sub? sum 1 = some w ∧ w.toInt = d.year * 12 + d.month - 1 :=
    Word.exists_ofInt? (by rw [hsum]; rfl) (by omega) (by omega)
  refine ⟨index, ?_, by rw [hindex, monthIndex, Int.mul_comm]⟩
  rw [monthIndex?, hy, Option.bind_eq_bind, Option.bind_some, hms, Option.bind_some, hm,
    Option.bind_some, hs, Option.bind_some, hi]

/-- Outside the calendar's years a shift by months ends where the calendar does. -/
theorem addMonths_eq_calendarEnd {d : Date} {months : Int}
    (h : (d.monthIndex + months) / 12 < first.year ∨ last.year < (d.monthIndex + months) / 12) :
    d.addMonths months = calendarEnd months := by
  have hfirst : first.year = -9999 := rfl
  have hlast : last.year = 9999 := rfl
  rw [addMonths, of?_eq_none fun hdate ↦ ?_, Option.getD_none]
  have hyear := hdate.1
  omega

theorem addMonths?_eq (d : Date) (months : Int64) :
    d.addMonths? months = some (d.addMonths months.toInt) := by
  have hfirst : first.year = -9999 := rfl
  have hlast : last.year = 9999 := rfl
  obtain ⟨start, hs, hstart⟩ := d.exists_monthIndex?
  obtain ⟨hmonth₁, hmonth₂⟩ := month_mem_of_isDate d.isDate
  obtain ⟨hyear₁, hyear₂⟩ := d.isDate.1
  have hindex₁ : -1000000 < d.monthIndex := by rw [monthIndex]; omega
  have hindex₂ : d.monthIndex < 1000000 := by rw [monthIndex]; omega
  rw [addMonths?, hs, Option.bind_eq_bind, Option.bind_some]
  cases hsum : Word.add? start months with
  | none =>
    -- what does not fit into a word is more months than the calendar has
    have hlarge : ¬ (-0x8000000000000000 ≤ start.toInt + months.toInt ∧
        start.toInt + months.toInt < 0x8000000000000000) := by
      intro ⟨hmin, hmax⟩
      obtain ⟨w, hw, -⟩ := Word.exists_ofInt? rfl hmin hmax
      rw [Word.add?, hw] at hsum
      cases hsum
    have hmin := months.le_toInt
    have hmax := months.toInt_lt
    rw [addMonths_eq_calendarEnd (by omega)]
    rfl
  | some index =>
    have hindex : index.toInt = d.monthIndex + months.toInt := by
      rw [← hstart]
      exact Word.ofInt?_eq_some_iff.mp hsum
    have hmin := index.le_toInt
    have hmax := index.toInt_lt
    obtain ⟨year, hy, hyear⟩ : ∃ w, Word.div? index 12 = some w ∧ w.toInt = index.toInt / 12 :=
      Word.exists_ofInt? rfl (by omega) (by omega)
    obtain ⟨rest, hr, hrest⟩ : ∃ w, Word.mod? index 12 = some w ∧ w.toInt = index.toInt % 12 :=
      Word.exists_ofInt? rfl (by omega) (by omega)
    simp only [hy, hr, Option.bind_eq_bind, Option.bind_some]
    split
    · next hout =>
      rw [addMonths_eq_calendarEnd (by rw [← hindex, ← hyear]; exact hout)]
      rfl
    · next hin =>
      obtain ⟨byte, hb, hbyte⟩ := Word.exists_toUInt8? (a := rest) (by omega) (by omega)
      obtain ⟨month, hm, hmonth⟩ := Word.exists_succ? (a := byte) (by omega)
      obtain ⟨short, hshort, hvalue⟩ := Word.exists_toInt32? (a := year) (by omega) (by omega)
      simp only [hb, hm, hshort, Option.bind_some]
      rw [ofAtMost?_eq _ (by omega) (by omega), addMonths, hvalue, hyear, hmonth, hbyte, hrest,
        hindex]
      rfl

end TagQuery.Date
