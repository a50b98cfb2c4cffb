import TagQuery.Proofs.Calendar.RelativeDate

/-!
# The order of shifted dates

Shifting keeps the order of dates, if not strictly: a later day is shifted to no earlier one by the
same amount, and a day is shifted to no earlier one by a larger amount (`shift_mono`). Several days
may be shifted to one, since months have different lengths and shifts end where the calendar does.

## Why neither end of the calendar disturbs the order

A shift ends at the first day of the calendar or at the last one by the direction of the shift. That
looks as if the direction mattered, but a shift backwards leaves the calendar at its beginning only,
and one forwards at its end. So the end is also the one that lies towards the target, and a shift is
the exact one followed by a cut at both ends, whatever its direction. A cut is monotone, and so is
the exact shift: by days it adds to the day number, by months to the month, and dates are ordered by
month first and by day second (`le_iff`). Where two shifts by months end in one month, they started
in one month as well, and the length of the month that they end in cuts both days alike.
-/

namespace TagQuery

namespace Date

variable {d e : Date} {m n : Int}

/-! ## The order of dates -/

theorem first_le (d : Date) : first ≤ d := (exists_dayNumber_iff.mp ⟨d, rfl⟩).1

theorem le_last (d : Date) : d ≤ last := (exists_dayNumber_iff.mp ⟨d, rfl⟩).2

theorem le_refl (d : Date) : d ≤ d := Int.le_refl _

/-- Days of an earlier month come earlier. -/
theorem lt_of_monthIndex_lt (h : d.monthIndex < e.monthIndex) : d < e := by
  obtain ⟨-, hpos, hle⟩ := d.isDate
  obtain ⟨-, hpos', hle'⟩ := e.isDate
  obtain ⟨hmonth₁, hmonth₂⟩ := month_mem_of_isDate d.isDate
  obtain ⟨hmonth₃, hmonth₄⟩ := month_mem_of_isDate e.isDate
  rw [monthIndex, monthIndex] at h
  rw [lt_def]
  by_cases hyear : d.year < e.year
  · have hbefore := d.dayNumber_mem_year.2
    have hafter := e.dayNumber_mem_year.1
    have hmono : firstDayOfYear (d.year + 1) ≤ firstDayOfYear e.year := firstDayOfYear_mono hyear
    omega
  · have heq : d.year = e.year := by omega
    have hnext : daysBeforeMonth d.year (d.month + 1) =
        daysBeforeMonth d.year d.month + daysInMonth d.year d.month := rfl
    have hmono : daysBeforeMonth d.year (d.month + 1) ≤ daysBeforeMonth d.year e.month :=
      daysBeforeMonth_mono d.year (by omega)
    rw [dayNumber, dayNumber, ← heq]
    omega

theorem monthIndex_inj : d.monthIndex = e.monthIndex ↔ d.year = e.year ∧ d.month = e.month := by
  obtain ⟨hmonth₁, hmonth₂⟩ := month_mem_of_isDate d.isDate
  obtain ⟨hmonth₃, hmonth₄⟩ := month_mem_of_isDate e.isDate
  rw [monthIndex, monthIndex]
  omega

/-- Dates are ordered by their months, and within a month by their days. -/
theorem le_iff :
    d ≤ e ↔ d.monthIndex < e.monthIndex ∨ d.monthIndex = e.monthIndex ∧ d.day ≤ e.day := by
  have hsame : d.monthIndex = e.monthIndex → (d ≤ e ↔ d.day ≤ e.day) := by
    intro h
    obtain ⟨hyear, hmonth⟩ := monthIndex_inj.mp h
    rw [le_def, dayNumber, dayNumber, hyear, hmonth]
    omega
  rcases Int.lt_trichotomy d.monthIndex e.monthIndex with hlt | heq | hlt
  · exact iff_of_true (Int.le_of_lt (lt_of_monthIndex_lt hlt)) (.inl hlt)
  · rw [hsame heq]
    omega
  · have hnot : ¬ d ≤ e := Int.not_le.mpr (lt_of_monthIndex_lt hlt)
    exact iff_of_false hnot (by omega)

/-! ## Shifts by days -/

/-- A shift by days is addition, cut at the ends of the calendar. -/
theorem dayNumber_addDays (d : Date) (n : Int) :
    (d.addDays n).dayNumber
      = max first.dayNumber (min (d.dayNumber + n) last.dayNumber) := by
  have hfirst : first.dayNumber ≤ d.dayNumber := d.first_le
  have hlast : d.dayNumber ≤ last.dayNumber := d.le_last
  by_cases h : first.dayNumber ≤ d.dayNumber + n ∧ d.dayNumber + n ≤ last.dayNumber
  · obtain ⟨e, he⟩ := exists_dayNumber_iff.mpr h
    rw [addDays_eq he, he]
    omega
  · have hout : ∀ e : Date, e.dayNumber ≠ d.dayNumber + n := fun e he ↦
      h (exists_dayNumber_iff.mp ⟨e, he⟩)
    rw [addDays_eq_calendarEnd hout, calendarEnd]
    split <;> omega

theorem addDays_mono (hde : d ≤ e) (hmn : m ≤ n) : d.addDays m ≤ e.addDays n := by
  rw [le_def] at hde ⊢
  rw [dayNumber_addDays, dayNumber_addDays]
  omega

/-! ## Shifts by months -/

theorem monthIndex_mem (d : Date) :
    first.monthIndex ≤ d.monthIndex ∧ d.monthIndex ≤ last.monthIndex := by
  have hfirst : first.monthIndex = -119988 := rfl
  have hlast : last.monthIndex = 119999 := rfl
  obtain ⟨hmonth₁, hmonth₂⟩ := month_mem_of_isDate d.isDate
  obtain ⟨hyear₁, hyear₂⟩ := d.isDate.1
  rw [hfirst, hlast, monthIndex]
  omega

theorem addMonths_eq_first (h : d.monthIndex + n < first.monthIndex) : d.addMonths n = first := by
  have hfirst : first.monthIndex = -119988 := rfl
  have hyear : first.year = -9999 := rfl
  have hmem := d.monthIndex_mem.1
  rw [addMonths_eq_calendarEnd (by omega), calendarEnd, if_pos (by omega)]

theorem addMonths_eq_last (h : last.monthIndex < d.monthIndex + n) : d.addMonths n = last := by
  have hlast : last.monthIndex = 119999 := rfl
  have hyear : last.year = 9999 := rfl
  have hmem := d.monthIndex_mem.2
  rw [addMonths_eq_calendarEnd (by omega), calendarEnd, if_neg (by omega)]

/-- A shift to a month of the calendar ends in that month, on the same day or on its last one. -/
theorem isMonthShift_addMonths (hfirst : first.monthIndex ≤ d.monthIndex + n)
    (hlast : d.monthIndex + n ≤ last.monthIndex) : d.IsMonthShift n (d.addMonths n) := by
  rw [show first.monthIndex = -119988 from rfl] at hfirst
  rw [show last.monthIndex = 119999 from rfl] at hlast
  obtain ⟨-, hpos, -⟩ := d.isDate
  obtain ⟨year, hyear⟩ : ∃ year, year = (d.monthIndex + n) / 12 := ⟨_, rfl⟩
  obtain ⟨month, hmonth⟩ : ∃ month, month = ((d.monthIndex + n) % 12).toNat + 1 := ⟨_, rfl⟩
  have hlength : 28 ≤ daysInMonth year month := le_daysInMonth year (by omega) (by omega)
  have hdate : IsDate year month (min d.day (daysInMonth year month)) :=
    ⟨by omega, by omega, Nat.min_le_right _ _⟩
  have hindex : 12 * year + month = 12 * d.year + d.month + n := by
    rw [monthIndex] at *
    omega
  have hshift : d.IsMonthShift n ⟨year, month, _, hdate⟩ := ⟨hindex, rfl⟩
  exact addMonths_eq hshift ▸ hshift

theorem addMonths_mono (hde : d ≤ e) (hmn : m ≤ n) : d.addMonths m ≤ e.addMonths n := by
  have hmonths : d.monthIndex ≤ e.monthIndex := by
    rw [le_iff] at hde
    omega
  by_cases hbelow : d.monthIndex + m < first.monthIndex
  · rw [addMonths_eq_first hbelow]
    exact first_le _
  by_cases habove : last.monthIndex < e.monthIndex + n
  · rw [addMonths_eq_last habove]
    exact le_last _
  obtain ⟨hindex, hday⟩ := isMonthShift_addMonths (d := d) (n := m) (by omega) (by omega)
  obtain ⟨hindex', hday'⟩ := isMonthShift_addMonths (d := e) (n := n) (by omega) (by omega)
  rw [le_iff]
  by_cases hlt : (d.addMonths m).monthIndex < (e.addMonths n).monthIndex
  · exact .inl hlt
  · -- both end in one month, so neither the month they start from nor the shift can differ
    rw [monthIndex, monthIndex] at hlt hmonths
    have heq : (d.addMonths m).monthIndex = (e.addMonths n).monthIndex := by
      rw [monthIndex, monthIndex]
      omega
    have hstart : d.monthIndex = e.monthIndex := by
      rw [monthIndex, monthIndex]
      omega
    obtain ⟨hyear, hmonth⟩ := monthIndex_inj.mp heq
    have hdays : d.day ≤ e.day := by
      rw [le_iff] at hde
      omega
    rw [hyear, hmonth] at hday
    exact .inr ⟨heq, by omega⟩

end Date

/-! ## Relative dates -/

namespace DateLiteral

theorem shift_mono {today today' : Date} {amount amount' : Int} (htoday : today ≤ today')
    (hamount : amount ≤ amount') (unit : DateUnit) :
    shift today amount unit ≤ shift today' amount' unit := by
  cases unit with
  | days => exact Date.addDays_mono htoday hamount
  | weeks => exact Date.addDays_mono htoday (by omega)
  | months => exact Date.addMonths_mono htoday hamount
  | years => exact Date.addMonths_mono htoday (by omega)

theorem resolve_eq_shift (today : Date) (amount : Int) (unit : DateUnit) :
    resolve today (relative amount unit) = shift today amount unit := by
  rw [resolve, Option.get_of_eq_some _ (resolve?_relative today amount unit), shift_clampAmount]

/-- A date literal denotes no earlier date on a later day. -/
theorem resolve_mono {today today' : Date} (h : today ≤ today') (l : DateLiteral) :
    l.resolve today ≤ l.resolve today' := by
  cases l with
  | absolute date => exact date.le_refl
  | relative amount unit =>
    rw [resolve_eq_shift, resolve_eq_shift]
    exact shift_mono h (Int.le_refl amount) unit

end DateLiteral

end TagQuery
