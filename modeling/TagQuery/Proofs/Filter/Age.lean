import Mathlib.Data.List.Basic
import TagQuery.Filter.Evaluation
import TagQuery.Proofs.Calendar.ShiftOrder

/-!
# The age of elements

An element is older than a date if some date is known of it and all of them lie before, and it is
newer if one of them lies after (`aged_iff_knows`). Known are the date of the last edit and the dates
noted under the keys for checks, as far as they can be read; a text that is no date is as good as
none.

The evaluator looks at the latest known date alone. That one lies before a day just if all known
dates do, and after it just if one of them does, so the two readings agree. What more becomes known,
or becomes known to be later, can only make an element newer.

A date in a query may be relative to today, and then moves with it, but never backwards
(`DateLiteral.resolve_mono`). Elements therefore grow older with time and stay so, and an element
that is new today was so on every earlier day (`monotone_of_today`).
-/

namespace TagQuery

/-! ## The latest of some dates -/

namespace Date

variable {a b d t : Date} {ds : List Date}

theorem latest_lt_iff : a.latest b < t ↔ a < t ∧ b < t := by
  rw [latest]
  split
  all_goals
    rw [lt_def] at *
    simp only [lt_def]
    omega

theorem lt_latest_iff : t < a.latest b ↔ t < a ∨ t < b := by
  rw [latest]
  split
  all_goals
    rw [lt_def] at *
    simp only [lt_def]
    omega

theorem foldl_latest_lt_iff : ds.foldl latest d < t ↔ ∀ x ∈ d :: ds, x < t := by
  induction ds generalizing d with
  | nil => simp
  | cons x ds ih =>
    rw [List.foldl_cons, ih]
    simp only [List.forall_mem_cons, latest_lt_iff, and_assoc]

theorem lt_foldl_latest_iff : t < ds.foldl latest d ↔ ∃ x ∈ d :: ds, t < x := by
  induction ds generalizing d with
  | nil => simp
  | cons x ds ih =>
    rw [List.foldl_cons, ih]
    simp only [List.mem_cons, exists_eq_or_imp, lt_latest_iff, or_assoc]

theorem exists_latestOf?_lt_iff :
    (∃ d, latestOf? ds = some d ∧ d < t) ↔ (∃ d, d ∈ ds) ∧ ∀ d ∈ ds, d < t := by
  cases ds with
  | nil => simp [latestOf?]
  | cons d ds =>
    simp only [latestOf?, Option.some.injEq, exists_eq_left', foldl_latest_lt_iff]
    exact (and_iff_right ⟨d, List.mem_cons_self⟩).symm

theorem exists_lt_latestOf?_iff :
    (∃ d, latestOf? ds = some d ∧ t < d) ↔ ∃ d ∈ ds, t < d := by
  cases ds with
  | nil => simp [latestOf?]
  | cons d ds => simp only [latestOf?, Option.some.injEq, exists_eq_left', lt_foldl_latest_iff]

end Date

/-! ## What is known of an element -/

section Known

variable {ε ε' : Type} [ElementView ε] [ElementView ε']

/-- Whether a date is known of an element: it is that of the last edit, or one that is noted under a
key for checks. -/
def ElementView.Knows (e : ε) (d : Date) : Prop :=
  (∃ s, stamp e = some s ∧ s.date = d) ∨
    ∃ key ∈ checkKeys, ∃ value, TagView.tag? e key = some value ∧ Date.ofTagValue? value = some d

namespace ElementView

/-- The dates that are known of an element, as the evaluator finds them. -/
def knownDates (e : ε) : List Date :=
  checkKeys.filterMap (fun key ↦ (TagView.tag? e key).bind Date.ofTagValue?) ++ (editDate e).toList

theorem mem_knownDates_iff {e : ε} {d : Date} : d ∈ knownDates e ↔ Knows e d := by
  simp only [knownDates, List.mem_append, List.mem_filterMap, Option.mem_toList, editDate,
    Option.map_eq_some_iff, Option.bind_eq_some_iff, Knows]
  exact or_comm

/-- The last check is the latest of the known dates. -/
theorem value_lastCheck (e : ε) : (lastCheck e).value = Date.latestOf? (knownDates e) := rfl

end ElementView

open ElementView

namespace Predicate

variable (units : UnitTable) (today : Date) (l : DateLiteral)

theorem value_evaluate_aged (age : Query.Age) (e : ε) :
    ((aged age l).evaluate units today e).value = true ↔
      ∃ d, (lastCheck e).value = some d ∧ isAged age d (l.resolve today) = true := by
  change (lastCheck e).value.any (fun d ↦ isAged age d (l.resolve today)) = true ↔ _
  exact Option.any_eq_true _ _

/-- **An element is older than a date if all known dates lie before it**, provided that some date is
known. -/
theorem older_iff (e : ε) :
    ((aged .older l).evaluate units today e).value = true ↔
      (∃ d, Knows e d) ∧ ∀ d, Knows e d → d < l.resolve today := by
  rw [value_evaluate_aged, value_lastCheck]
  simp only [isAged, decide_eq_true_eq, Date.exists_latestOf?_lt_iff, mem_knownDates_iff]

/-- **An element is newer than a date if some known date lies after it.** -/
theorem newer_iff (e : ε) :
    ((aged .newer l).evaluate units today e).value = true ↔
      ∃ d, Knows e d ∧ l.resolve today < d := by
  rw [value_evaluate_aged, value_lastCheck]
  simp only [isAged, decide_eq_true_eq, Date.exists_lt_latestOf?_iff, mem_knownDates_iff]

/-- What cannot be read as a date is as good as nothing. -/
theorem value_evaluate_aged_congr {e : ε} {e' : ε'} (hchecks : ∀ key ∈ checkKeys,
      (TagView.tag? e key).bind Date.ofTagValue? = (TagView.tag? e' key).bind Date.ofTagValue?)
    (hstamp : editDate e = editDate e') (age : Query.Age) :
    ((aged age l).evaluate units today e).value = ((aged age l).evaluate units today e').value := by
  have hknown : knownDates e = knownDates e' := by
    rw [knownDates, List.filterMap_congr hchecks, hstamp, knownDates]
  rw [Bool.eq_iff_iff, value_evaluate_aged, value_evaluate_aged, value_lastCheck, value_lastCheck,
    hknown]

/-- Whoever knows all dates that are known of an element, or later ones in their place, takes it for
no older. -/
theorem aged_of_knows_later {e : ε} {e' : ε'} (hsome : ∃ d, Knows e d)
    (hlater : ∀ d, Knows e d → ∃ d', d ≤ d' ∧ Knows e' d') :
    (((aged .older l).evaluate units today e').value = true →
      ((aged .older l).evaluate units today e).value = true) ∧
    (((aged .newer l).evaluate units today e).value = true →
      ((aged .newer l).evaluate units today e').value = true) := by
  simp only [older_iff, newer_iff]
  constructor
  · rintro ⟨-, hbefore⟩
    refine ⟨hsome, fun d hd ↦ ?_⟩
    obtain ⟨d', hle, hd'⟩ := hlater d hd
    exact Int.lt_of_le_of_lt hle (hbefore d' hd')
  · rintro ⟨d, hd, hafter⟩
    obtain ⟨d', hle, hd'⟩ := hlater d hd
    exact ⟨d', hd', Int.lt_of_lt_of_le hafter hle⟩

/-- **Predicates on the age speak of all dates that are known of an element.** It is older than a
date if some date is known of it and all known ones lie before, and newer if one of them lies after;
no element is both. Texts that are no dates do not count. Where more is known, or later dates in the
place of known ones, an element of which something was known before can only cease to be older and
become newer. -/
theorem aged_iff_knows (e : ε) :
    (((aged .older l).evaluate units today e).value = true ↔
      (∃ d, Knows e d) ∧ ∀ d, Knows e d → d < l.resolve today) ∧
    (((aged .newer l).evaluate units today e).value = true ↔
      ∃ d, Knows e d ∧ l.resolve today < d) ∧
    ¬(((aged .older l).evaluate units today e).value = true ∧
      ((aged .newer l).evaluate units today e).value = true) ∧
    ∀ {ε' : Type} [ElementView ε'] (e' : ε'),
      ((∀ key ∈ checkKeys,
          (TagView.tag? e key).bind Date.ofTagValue? = (TagView.tag? e' key).bind Date.ofTagValue?) →
        editDate e = editDate e' → ∀ age, ((aged age l).evaluate units today e).value
          = ((aged age l).evaluate units today e').value) ∧
      ((∃ d, Knows e d) → (∀ d, Knows e d → ∃ d', d ≤ d' ∧ Knows e' d') →
        (((aged .older l).evaluate units today e').value = true →
          ((aged .older l).evaluate units today e).value = true) ∧
        (((aged .newer l).evaluate units today e).value = true →
          ((aged .newer l).evaluate units today e').value = true)) := by
  refine ⟨older_iff units today l e, newer_iff units today l e, ?_, fun e' ↦
    ⟨value_evaluate_aged_congr units today l, aged_of_knows_later units today l⟩⟩
  rw [older_iff, newer_iff]
  rintro ⟨⟨-, hbefore⟩, d, hd, hafter⟩
  exact Int.lt_asymm (hbefore d hd) hafter

/-- A check that is noted as a text is as good as none, and a later one makes an element newer. -/
theorem aged_iff_knows_rechecked :
    let today : Date := ⟨2024, 6, 15, by decide⟩
    let edited : Stamp := ⟨⟨2020, 5, 1, by decide⟩, 12, 0, 0, 0, 120, by decide⟩
    let e : Element := ⟨.node, 1, .ofList [("check_date", "last summer")], some edited⟩
    let unchecked : Element := ⟨.node, 1, .empty, some edited⟩
    let rechecked : Element := ⟨.node, 1, .ofList [("survey:date", "2024-01")], some edited⟩
    (∃ d, Knows e d) ∧ (∀ d, Knows e d → ∃ d', d ≤ d' ∧ Knows rechecked d') ∧
    ((aged .older (.relative (-4) .years)).evaluate .empty today e).value = true ∧
    ((aged .older (.relative (-4) .years)).evaluate .empty today unchecked).value = true ∧
    ((aged .newer (.relative (-5) .years)).evaluate .empty today e).value = true ∧
    ((aged .newer (.relative (-5) .years)).evaluate .empty today rechecked).value = true := by
  intro today edited e unchecked rechecked
  have hchecks : ∀ key ∈ checkKeys, (TagView.tag? e key).bind Date.ofTagValue?
      = (TagView.tag? unchecked key).bind Date.ofTagValue? := by decide
  have hsome : ∃ d, Knows e d := ⟨edited.date, .inl ⟨edited, rfl, rfl⟩⟩
  have hlater : ∀ d, Knows e d → ∃ d', d ≤ d' ∧ Knows rechecked d' := by
    intro d hd
    rw [← mem_knownDates_iff] at hd
    exact ⟨⟨2024, 1, 1, by decide⟩, (by decide : ∀ d ∈ knownDates e, d ≤ _) d hd,
      mem_knownDates_iff.mp (by decide)⟩
  have holder : ((aged .older (.relative (-4) .years)).evaluate .empty today e).value = true := by
    decide
  have hnewer : ((aged .newer (.relative (-5) .years)).evaluate .empty today e).value = true := by
    decide
  obtain ⟨-, -, -, hothers⟩ := aged_iff_knows .empty today (.relative (-4) .years) e
  obtain ⟨-, -, -, hothers'⟩ := aged_iff_knows .empty today (.relative (-5) .years) e
  exact ⟨hsome, hlater, holder, (hothers unchecked).1 hchecks rfl .older ▸ holder, hnewer,
    ((hothers' rechecked).2 hsome hlater).2 hnewer⟩

/-! ## Ages over time -/

theorem older_mono {today today' : Date} (h : today ≤ today') {e : ε}
    (holder : ((aged .older l).evaluate units today e).value = true) :
    ((aged .older l).evaluate units today' e).value = true := by
  rw [older_iff] at holder ⊢
  obtain ⟨hsome, hbefore⟩ := holder
  exact ⟨hsome, fun d hd ↦ Int.lt_of_lt_of_le (hbefore d hd) (l.resolve_mono h)⟩

theorem newer_anti {today today' : Date} (h : today ≤ today') {e : ε}
    (hnewer : ((aged .newer l).evaluate units today' e).value = true) :
    ((aged .newer l).evaluate units today e).value = true := by
  rw [newer_iff] at hnewer ⊢
  obtain ⟨d, hd, hafter⟩ := hnewer
  exact ⟨d, hd, Int.lt_of_le_of_lt (l.resolve_mono h) hafter⟩

/-- **Relative dates keep up with today.** They denote no earlier date on a later day, nor for a
larger amount, however months and the calendar end. So an element that is older than a date literal
stays so on all later days, and one that is newer was so on all earlier days. -/
theorem monotone_of_today :
    (∀ (unit : DateUnit) (amount : Int) {today today' : Date}, today ≤ today' →
      (DateLiteral.relative amount unit).resolve today
        ≤ (DateLiteral.relative amount unit).resolve today') ∧
    (∀ (unit : DateUnit) (today : Date) {amount amount' : Int}, amount ≤ amount' →
      (DateLiteral.relative amount unit).resolve today
        ≤ (DateLiteral.relative amount' unit).resolve today) ∧
    ∀ {ε : Type} [ElementView ε] (units : UnitTable) (l : DateLiteral) (e : ε)
      {today today' : Date}, today ≤ today' →
      (((aged .older l).evaluate units today e).value = true →
        ((aged .older l).evaluate units today' e).value = true) ∧
      (((aged .newer l).evaluate units today' e).value = true →
        ((aged .newer l).evaluate units today e).value = true) := by
  refine ⟨fun unit amount _ _ h ↦ DateLiteral.resolve_mono h _, fun unit today _ _ h ↦ ?_,
    fun units l _ _ _ h ↦ ⟨older_mono units l h, newer_anti units l h⟩⟩
  rw [DateLiteral.resolve_eq_shift, DateLiteral.resolve_eq_shift]
  exact DateLiteral.shift_mono today.le_refl h unit

/-- The last days of March have one date a month before, and the first day of April has a later one;
an amount that leads out of the calendar is still ordered with the others. -/
theorem monotone_of_today_april :
    let today : Date := ⟨2024, 3, 31, by decide⟩
    let today' : Date := ⟨2024, 4, 1, by decide⟩
    let e : Element := ⟨.way, 1, .ofList [("lastcheck", "2024-02-28")], none⟩
    today ≤ today' ∧ (-0x8000000000000000 : Int) ≤ -1 ∧
    (DateLiteral.relative (-1) .months).resolve today
      ≤ (DateLiteral.relative (-1) .months).resolve today' ∧
    (DateLiteral.relative (-0x8000000000000000) .months).resolve today
      ≤ (DateLiteral.relative (-1) .months).resolve today ∧
    ((aged .older (.relative (-1) .months)).evaluate .empty today e).value = true ∧
    ((aged .older (.relative (-1) .months)).evaluate .empty today' e).value = true := by
  intro today today' e
  have htoday : today ≤ today' := by decide
  have hamount : (-0x8000000000000000 : Int) ≤ -1 := by decide
  have holder : ((aged .older (.relative (-1) .months)).evaluate .empty today e).value = true := by
    decide
  obtain ⟨hdates, hamounts, hages⟩ := monotone_of_today
  exact ⟨htoday, hamount, hdates .months (-1) htoday, hamounts .months today hamount, holder,
    (hages .empty (.relative (-1) .months) e htoday).1 holder⟩

end Predicate

end Known

end TagQuery
