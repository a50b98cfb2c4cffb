import TagQuery.Literal.Date
import TagQuery.Proofs.Calendar.DayNumber

/-!
# The date that a relative date denotes

A relative date denotes the day that lies the given number of units from today, or the end of the
calendar if there is no such day (`resolve_relative`). Which day that is, is said here without
computing it: `IsShift` relates two dates by their day numbers, or by their months and days.

## Why bringing the amount into range changes nothing

The calendar has not quite twenty thousand years, and the limits of the amounts count twenty
thousand years of at most 366 days, 53 weeks and 12 months. So a shift by the limit already leaves
the calendar from every day of it (`not_isShift`), and so does every larger one. What is
lost by cutting an amount down to the limit is how far outside the target lies, and the date
that is reported for it depends on the direction alone.
-/

namespace TagQuery

/-! ## Shifted dates -/

namespace Date

/-- Whether a date lies some months after another, on the same day of the month or on the last day
of a month that is too short. -/
def IsMonthShift (d : Date) (months : Int) (e : Date) : Prop :=
  12 * e.year + e.month = 12 * d.year + d.month + months ∧
    e.day = min d.day (daysInMonth e.year e.month)

theorem addDays_eq {d e : Date} {days : Int} (h : e.dayNumber = d.dayNumber + days) :
    d.addDays days = e := by
  rw [addDays, ofDayNumber?_eq_some_iff.mpr h, Option.getD_some]

theorem addDays_eq_calendarEnd {d : Date} {days : Int}
    (h : ∀ e : Date, e.dayNumber ≠ d.dayNumber + days) : d.addDays days = calendarEnd days := by
  have hnone : ofDayNumber? (d.dayNumber + days) = none :=
    Option.eq_none_iff_forall_ne_some.mpr fun e he ↦ h e (ofDayNumber?_eq_some_iff.mp he)
  rw [addDays, hnone, Option.getD_none]

/-- The date looked up for a shift by months is the one at that distance. -/
theorem of?_addMonths_eq_some_iff {d e : Date} {months : Int} :
    let index := d.monthIndex + months
    of? (index / 12) ((index % 12).toNat + 1)
      (min d.day (daysInMonth (index / 12) ((index % 12).toNat + 1))) = some e ↔
    d.IsMonthShift months e := by
  obtain ⟨hmonth₁, hmonth₂⟩ := month_mem_of_isDate e.isDate
  dsimp only [monthIndex]
  rw [of?_eq_some_iff]
  constructor
  · rintro ⟨hyear, hmonth, hday⟩
    rw [← hyear, ← hmonth] at hday
    exact ⟨by omega, hday⟩
  · rintro ⟨hsum, hday⟩
    have hyear : e.year = (12 * d.year + d.month - 1 + months) / 12 := by omega
    have hmonth : e.month = ((12 * d.year + d.month - 1 + months) % 12).toNat + 1 := by omega
    rw [← hyear, ← hmonth]
    exact ⟨rfl, rfl, hday⟩

theorem addMonths_eq {d e : Date} {months : Int} (h : d.IsMonthShift months e) :
    d.addMonths months = e := by
  rw [addMonths, of?_addMonths_eq_some_iff.mpr h, Option.getD_some]

theorem addMonths_eq_calendarEnd_of_forall {d : Date} {months : Int}
    (h : ∀ e, ¬ d.IsMonthShift months e) : d.addMonths months = calendarEnd months := by
  rw [addMonths, Option.eq_none_iff_forall_ne_some.mpr fun e he ↦
    h e (of?_addMonths_eq_some_iff.mp he), Option.getD_none]

/-- The end that a shift runs into depends on its direction alone. -/
theorem calendarEnd_congr {m n : Int} (h : m < 0 ↔ n < 0) : calendarEnd m = calendarEnd n := by
  simp only [calendarEnd, h]

end Date

namespace DateLiteral

open Date

/-- Whether a date lies some units after a day, or before it for a negative amount. -/
def IsShift (today : Date) (amount : Int) : DateUnit → Date → Prop
  | .days, d => d.dayNumber = today.dayNumber + amount
  | .weeks, d => d.dayNumber = today.dayNumber + 7 * amount
  | .months, d => today.IsMonthShift amount d
  | .years, d => today.IsMonthShift (12 * amount) d

theorem shift_eq {today d : Date} {amount : Int} {unit : DateUnit}
    (h : IsShift today amount unit d) : shift today amount unit = d := by
  cases unit with
  | days => exact addDays_eq h
  | weeks => exact addDays_eq h
  | months => exact addMonths_eq h
  | years => exact addMonths_eq h

theorem shift_eq_calendarEnd {today : Date} {amount : Int} {unit : DateUnit}
    (h : ∀ d, ¬ IsShift today amount unit d) : shift today amount unit = calendarEnd amount := by
  cases unit with
  | days => exact addDays_eq_calendarEnd h
  | weeks => exact (addDays_eq_calendarEnd h).trans (calendarEnd_congr (by omega))
  | months => exact addMonths_eq_calendarEnd_of_forall h
  | years => exact (addMonths_eq_calendarEnd_of_forall h).trans (calendarEnd_congr (by omega))

/-! ## The range of the amounts -/

/-- A shift by the limit of its unit leaves the calendar, whatever day it starts from. -/
theorem not_isShift {today d : Date} {amount : Int} {unit : DateUnit}
    (h : unit.limit ≤ amount.natAbs) : ¬ IsShift today amount unit d := by
  have hspan : last.dayNumber - first.dayNumber < 20000 * 366 ∧
      last.dayNumber - first.dayNumber < 7 * (20000 * 53) := by decide
  obtain ⟨hfirst₁, hlast₁⟩ := exists_dayNumber_iff.mp ⟨today, rfl⟩
  obtain ⟨hfirst₂, hlast₂⟩ := exists_dayNumber_iff.mp ⟨d, rfl⟩
  obtain ⟨hyear₁, hyear₂⟩ := today.isDate.1
  obtain ⟨hyear₃, hyear₄⟩ := d.isDate.1
  obtain ⟨hmonth₁, hmonth₂⟩ := month_mem_of_isDate today.isDate
  obtain ⟨hmonth₃, hmonth₄⟩ := month_mem_of_isDate d.isDate
  intro hshift
  cases unit with
  | days =>
    have hlimit : DateUnit.days.limit = 20000 * 366 := rfl
    have hnumber : d.dayNumber = today.dayNumber + amount := hshift
    omega
  | weeks =>
    have hlimit : DateUnit.weeks.limit = 20000 * 53 := rfl
    have hnumber : d.dayNumber = today.dayNumber + 7 * amount := hshift
    omega
  | months =>
    have hlimit : DateUnit.months.limit = 20000 * 12 := rfl
    have hmonths := hshift.1
    omega
  | years =>
    have hlimit : DateUnit.years.limit = 20000 := rfl
    have hmonths := hshift.1
    omega

/-- **The range of the amounts loses no date.** -/
theorem shift_clampAmount (today : Date) (amount : Int) (unit : DateUnit) :
    shift today (clampAmount unit amount) unit = shift today amount unit := by
  by_cases h : amount.natAbs ≤ unit.limit
  · have heq : clampAmount unit amount = amount := by
      rw [clampAmount]
      omega
    rw [heq]
  · -- both amounts lead out of the calendar, and in the same direction
    have hpos : 0 < unit.limit := by cases unit <;> decide
    have hclamp : unit.limit ≤ (clampAmount unit amount).natAbs := by
      rw [clampAmount]
      omega
    have hsign : clampAmount unit amount < 0 ↔ amount < 0 := by
      rw [clampAmount]
      omega
    rw [shift_eq_calendarEnd fun _ ↦ not_isShift hclamp,
      shift_eq_calendarEnd fun _ ↦ not_isShift (by omega), calendarEnd_congr hsign]

/-! ## The date denoted -/

/-- **A relative date denotes the day at its distance from today**, and the first or the last day
of the calendar where that distance leads out of it. The computation in words gets there from every
day and by every amount, without leaving a word on the way. -/
theorem resolve_relative (today : Date) (amount : Int) (unit : DateUnit) :
    resolve? today (relative amount unit) = some (resolve today (relative amount unit)) ∧
    resolve today (relative amount unit) = shift today amount unit ∧
    (∀ d, IsShift today amount unit d → resolve today (relative amount unit) = d) ∧
    ((∀ d, ¬ IsShift today amount unit d) →
      amount ≠ 0 ∧ resolve today (relative amount unit) = if amount < 0 then first else last) := by
  have hresolve : resolve today (relative amount unit) = shift today amount unit := by
    rw [resolve, Option.get_of_eq_some _ (resolve?_relative today amount unit), shift_clampAmount]
  refine ⟨(Option.some_get _).symm, hresolve, ?_, ?_⟩
  · intro d hd
    rw [hresolve, shift_eq hd]
  · intro hnone
    refine ⟨?_, by rw [hresolve, shift_eq_calendarEnd hnone, calendarEnd]⟩
    -- today itself lies no unit away
    rintro rfl
    have hday : today.day = min today.day (daysInMonth today.year today.month) :=
      (Nat.min_eq_left today.isDate.2.2).symm
    apply hnone today
    cases unit with
    | days => exact (Int.add_zero _).symm
    | weeks => exact (Int.add_zero _).symm
    | months => exact ⟨(Int.add_zero _).symm, hday⟩
    | years => exact ⟨(Int.add_zero _).symm, hday⟩

/-- A month before the last of March is the last of February, and as many days back as a word can
hold lies the start of the calendar. -/
theorem resolve_relative_march :
    resolve ⟨2024, 3, 31, by decide⟩ (relative (-1) .months) = ⟨2024, 2, 29, by decide⟩ ∧
    resolve ⟨2024, 3, 31, by decide⟩ (relative (-0x8000000000000000) .days) = first := by
  constructor
  · exact (resolve_relative ⟨2024, 3, 31, by decide⟩ (-1) .months).2.2.1 ⟨2024, 2, 29, by decide⟩
      ⟨by decide, by decide⟩
  · exact ((resolve_relative ⟨2024, 3, 31, by decide⟩ (-0x8000000000000000) .days).2.2.2
      fun _ ↦ not_isShift (by decide)).2

end DateLiteral

end TagQuery
