import TagQuery.Proofs.Filter.Age
import TagQuery.Proofs.Filter.Compilation
import TagQuery.Proofs.Filter.Lookups
import TagQuery.Proofs.Query.Derivation

/-!
# Elements that were edited at one moment

The moment of an edit may be read off different clocks. Elements that differ in nothing else are the
same (`Element.same`), so one would expect filters to accept both of them or neither. That is so for
all filters that do not speak about the age of elements, and for the others it depends on the dates
(`matchedAlike_iff`): the age is counted in days, from the date on the clock of the stamp. Two clocks
may show different dates at one moment, and then there is a day on which the one element is older
than today and the other is not. Only a noted check that is no earlier than both dates hides the
difference.

What filters can find out about the stamp is the date of the last check, no more and no less. They
ask for nothing else (`examine_congr_of_lastCheck`), and the query `older today`, asked on all days,
tells any two such dates apart.
-/

namespace TagQuery

/-! ## The latest date -/

namespace Date

variable {d e m : Date} {ds : List Date}

theorem le_antisymm (h : d ≤ e) (h' : e ≤ d) : d = e :=
  dayNumber_injective (Int.le_antisymm h h')

/-- The latest of some dates is one of them, and no other is later. -/
theorem latestOf?_eq_some_iff : latestOf? ds = some m ↔ m ∈ ds ∧ ∀ d ∈ ds, d ≤ m := by
  cases ds with
  | nil => simp [latestOf?]
  | cons d ds =>
    obtain ⟨l, hl⟩ : ∃ l, ds.foldl latest d = l := ⟨_, rfl⟩
    have hirrefl : ¬ l < l := Int.lt_irrefl _
    have hle : ∀ x ∈ d :: ds, x ≤ l := by
      have hnone := mt lt_foldl_latest_iff.mpr (hl ▸ hirrefl)
      rw [hl] at hnone
      exact fun x hx ↦ Int.not_lt.mp fun hlt ↦ hnone ⟨x, hx, hlt⟩
    have hmem : l ∈ d :: ds := by
      have hsome := mt foldl_latest_lt_iff.mpr (hl ▸ hirrefl)
      rw [hl] at hsome
      push Not at hsome
      obtain ⟨x, hx, hge⟩ := hsome
      have heq : x = l := le_antisymm (hle x hx) (Int.not_lt.mp hge)
      exact heq ▸ hx
    rw [latestOf?, hl, Option.some.injEq]
    constructor
    · rintro rfl
      exact ⟨hmem, hle⟩
    · rintro ⟨hm, hmax⟩
      exact le_antisymm (hmax l hmem) (hle m hm)

theorem exists_latestOf?_concat (ds : List Date) (d : Date) :
    ∃ m, latestOf? (ds ++ [d]) = some m := by
  cases ds with
  | nil => exact ⟨_, rfl⟩
  | cons c ds => exact ⟨_, rfl⟩

/-- Some dates and a date that is no later than one of them have the latest date of the former. -/
theorem latestOf?_concat_of_le {c : Date} (hc : c ∈ ds) (hle : d ≤ c) :
    latestOf? (ds ++ [d]) = latestOf? ds := by
  obtain ⟨m, hm⟩ := exists_latestOf?_concat ds d
  obtain ⟨hmem, hmax⟩ := latestOf?_eq_some_iff.mp hm
  rw [hm, eq_comm, latestOf?_eq_some_iff]
  refine ⟨?_, fun x hx ↦ hmax x (List.mem_append_left _ hx)⟩
  rcases List.mem_append.mp hmem with hds | hd
  · exact hds
  · obtain rfl := List.mem_singleton.mp hd
    exact le_antisymm (hmax c (List.mem_append_left _ hc)) hle ▸ hc

/-- Two dates are alike among others if they are the same or one of the others is no earlier than
both. -/
theorem latestOf?_concat_eq_iff :
    latestOf? (ds ++ [d]) = latestOf? (ds ++ [e]) ↔ d = e ∨ ∃ c ∈ ds, d ≤ c ∧ e ≤ c := by
  constructor
  · intro h
    obtain ⟨m, hm⟩ := exists_latestOf?_concat ds d
    obtain ⟨hmem, hmax⟩ := latestOf?_eq_some_iff.mp hm
    obtain ⟨hmem', hmax'⟩ := latestOf?_eq_some_iff.mp (h ▸ hm)
    have hd : d ≤ m := hmax d (List.mem_append_right _ List.mem_cons_self)
    have he : e ≤ m := hmax' e (List.mem_append_right _ List.mem_cons_self)
    rcases List.mem_append.mp hmem with hds | hmd
    · exact .inr ⟨m, hds, hd, he⟩
    rcases List.mem_append.mp hmem' with hds | hme
    · exact .inr ⟨m, hds, hd, he⟩
    · exact .inl ((List.mem_singleton.mp hmd).symm.trans (List.mem_singleton.mp hme))
  · rintro (rfl | ⟨c, hc, hd, he⟩)
    · rfl
    · rw [latestOf?_concat_of_le hc hd, latestOf?_concat_of_le hc he]

end Date

/-! ## Elements that differ in a clock -/

namespace Element

variable {a b : Element}

/-- Two elements have one kind, the same tags, and stamps of one moment, be it on different clocks. -/
structure DiffersInClock (a b : Element) : Prop where
  kind_eq : a.kind = b.kind
  tags_eq : a.tags = b.tags
  sameMoment : Element.sameMoment a.stamp b.stamp = true

/-- Of the same elements nothing but the clocks of their stamps can differ. -/
theorem differsInClock_of_same (h : same a b = true) : DiffersInClock a b := by
  simp only [same, Bool.and_eq_true, beq_iff_eq, decide_eq_true_eq] at h
  obtain ⟨⟨⟨hkind, -⟩, htags⟩, hstamp⟩ := h
  exact ⟨hkind, htags, hstamp⟩

theorem DiffersInClock.stamp_cases (h : DiffersInClock a b) :
    (a.stamp = none ∧ b.stamp = none) ∨ ∃ s t, a.stamp = some s ∧ b.stamp = some t := by
  have hstamp := h.sameMoment
  cases hs : a.stamp with
  | none =>
    cases ht : b.stamp with
    | none => exact .inl ⟨rfl, rfl⟩
    | some t =>
      rw [hs, ht] at hstamp
      cases hstamp
  | some s =>
    cases ht : b.stamp with
    | none =>
      rw [hs, ht] at hstamp
      cases hstamp
    | some t => exact .inr ⟨s, t, rfl, rfl⟩

/-- A date is noted as that of a check. -/
def Notes (e : Element) (d : Date) : Prop :=
  ∃ key ∈ checkKeys, ∃ value, e.tags.get? key = some value ∧ Date.ofTagValue? value = some d

/-- The dates that are noted under the keys for checks. -/
def notedDates (e : Element) : List Date :=
  checkKeys.filterMap fun key ↦ (e.tags.get? key).bind Date.ofTagValue?

theorem mem_notedDates_iff {e : Element} {d : Date} : d ∈ e.notedDates ↔ e.Notes d := by
  simp only [notedDates, List.mem_filterMap, Option.bind_eq_some_iff, Notes]

theorem lastCheck_eq (e : Element) :
    e.lastCheck = Date.latestOf? (e.notedDates ++ e.editDate.toList) := rfl

theorem exists_lastCheck {e : Element} {s : Stamp} (h : e.stamp = some s) :
    ∃ d, e.lastCheck = some d := by
  rw [lastCheck_eq, editDate, h]
  exact Date.exists_latestOf?_concat _ _

/-- The last check is the same if the stamps have one date or a later check is noted. -/
theorem lastCheck_eq_iff (h : DiffersInClock a b) :
    a.lastCheck = b.lastCheck ↔
      a.editDate = b.editDate ∨
        ∃ c, a.Notes c ∧ (∀ d ∈ a.editDate, d ≤ c) ∧ ∀ d ∈ b.editDate, d ≤ c := by
  have hnoted : b.notedDates = a.notedDates := by rw [notedDates, notedDates, h.tags_eq]
  simp only [lastCheck_eq, hnoted, ← mem_notedDates_iff, editDate]
  rcases h.stamp_cases with ⟨hs, ht⟩ | ⟨s, t, hs, ht⟩
  · simp [hs, ht]
  · rw [hs, ht]
    simpa using Date.latestOf?_concat_eq_iff

/-! ## What filters find out -/

/-- A predicate looks at the tags, and if it is one on the age, at the date of the last check. -/
theorem evaluate_congr_of_lastCheck (htags : a.tags = b.tags) (units : UnitTable) (today : Date)
    {p : Predicate} (hp : (∀ age l, p ≠ .aged age l) ∨ a.lastCheck = b.lastCheck) :
    p.evaluate units today a = p.evaluate units today b := by
  have hlookup : ∀ key, TagView.lookup a key = TagView.lookup b key := by
    intro key
    change (⟨a.tags.get? key, _⟩ : Traced _) = ⟨b.tags.get? key, _⟩
    rw [htags]
  have hany : ∀ q, TagView.anyTag a q = TagView.anyTag b q := by
    intro q
    change (⟨a.tags.entries.any _, _⟩ : Traced _) = ⟨b.tags.entries.any _, _⟩
    rw [htags]
  cases p with
  | aged age l =>
    have hvalue : (ElementView.lastCheck a).value = (ElementView.lastCheck b).value :=
      hp.resolve_left fun h ↦ h age l rfl
    -- the accesses are those to the keys for checks, whatever they turn up
    have hlookups : (ElementView.lastCheck a).lookups = (ElementView.lastCheck b).lookups := rfl
    simp only [Predicate.evaluate, Traced.map, hvalue, hlookups]
  | _ => simp only [Predicate.evaluate, hlookup, hany]

/-- **Filters find out no more about a stamp than the date of the last check**, and without a
predicate on the age not even that. -/
theorem examine_congr_of_lastCheck (h : DiffersInClock a b) (f : Filter) (today : Date)
    (hf : (∀ age l, .aged age l ∉ f.leaves) ∨ a.lastCheck = b.lastCheck) :
    f.examine today a = f.examine today b := by
  rw [Filter.examine, Filter.examine, ElementView.kind_element, ElementView.kind_element, h.kind_eq]
  cases hcondition : f.condition with
  | none => rfl
  | some c =>
    have hleaf : ∀ p ∈ c.leaves,
        p.evaluate f.units today a = p.evaluate f.units today b := by
      intro p hp
      refine evaluate_congr_of_lastCheck h.tags_eq f.units today (hf.imp_left fun hno age l ↦ ?_)
      rintro rfl
      refine hno age l ?_
      rw [Filter.leaves, hcondition]
      exact hp
    dsimp only
    rw [c.evaluate_congr hleaf]

/-- No filter tells two elements apart on any day. -/
def MatchedAlike (a b : Element) : Prop :=
  ∀ units source f, Filter.ofSource units source = .ok f →
    ∀ today, f.accepts today a = f.accepts today b

/-- The filter for all elements that are older than today. -/
def olderThanToday : Filter where
  source := "nodes , ways , relations with older today"
  kinds := .full
  condition := some (.leaf (.aged .older (.relative 0 .days)))
  units := .standard

theorem ofSource_olderThanToday :
    Filter.ofSource .standard "nodes , ways , relations with older today" = .ok olderThanToday := by
  let d : Query.Grammar.Derivation := ⟨⟨.node, [.way, .relation]⟩,
    some (.chain (.chain (.leaf (.aged .older ⟨.word "today", []⟩)) []) [])⟩
  have hsource : "nodes , ways , relations with older today".toList = Query.spelled d.tokens := by
    decide +kernel
  have hlexes : Query.Lexes "nodes , ways , relations with older today".toList d.tokens :=
    hsource ▸ Query.lexes_spelled (by decide +kernel)
  have hparse : Query.parse "nodes , ways , relations with older today" = .ok d.meaning :=
    Query.parse_eq_ok_iff_lexes.mpr ⟨d, hlexes, rfl⟩
  exact Filter.ofSource_eq_ok_iff.mpr ⟨d.meaning, hparse, rfl⟩

theorem resolve_today (today : Date) : (DateLiteral.relative 0 .days).resolve today = today := by
  rw [DateLiteral.resolve_eq_shift]
  exact Date.addDays_eq (Int.add_zero _).symm

theorem accepts_olderThanToday_iff {e : Element} {today : Date} :
    olderThanToday.accepts today e = true ↔ ∃ d, e.lastCheck = some d ∧ d < today := by
  have hkind : KindSet.full.contains e.kind = true := by cases e.kind <;> rfl
  have hexamine : olderThanToday.examine today e =
      (Predicate.aged .older (.relative 0 .days)).evaluate .standard today e := if_pos hkind
  rw [Filter.accepts, hexamine, Predicate.value_evaluate_aged, resolve_today]
  simp only [Predicate.isAged, decide_eq_true_eq, lastCheck]

/-- The date of the last check is found out: on the later one of two such dates, one element is older
than today and the other is not. -/
theorem not_lt_of_matchedAlike {d e : Date} (h : MatchedAlike a b) (hd : a.lastCheck = some d)
    (he : b.lastCheck = some e) : ¬d < e := by
  intro hlt
  have hold : olderThanToday.accepts e a = true := accepts_olderThanToday_iff.mpr ⟨d, hd, hlt⟩
  rw [h _ _ _ ofSource_olderThanToday e, accepts_olderThanToday_iff, he] at hold
  obtain ⟨d', heq, hlt'⟩ := hold
  exact Int.lt_irrefl _ (Option.some.inj heq ▸ hlt')

theorem MatchedAlike.symm (h : MatchedAlike a b) : MatchedAlike b a :=
  fun units source f hf today ↦ (h units source f hf today).symm

theorem lastCheck_eq_of_matchedAlike (h : DiffersInClock a b) (halike : MatchedAlike a b) :
    a.lastCheck = b.lastCheck := by
  rcases h.stamp_cases with ⟨hs, ht⟩ | ⟨s, t, hs, ht⟩
  · refine (lastCheck_eq_iff h).mpr (.inl ?_)
    rw [editDate, editDate, hs, ht]
  · obtain ⟨d, hd⟩ := exists_lastCheck hs
    obtain ⟨e, he⟩ := exists_lastCheck ht
    have hle := Int.not_lt.mp (not_lt_of_matchedAlike halike hd he)
    have hge := Int.not_lt.mp (not_lt_of_matchedAlike halike.symm he hd)
    rw [hd, he, Date.le_antisymm hge hle]

/-- **Filters go by the date of the last check, not by the moment of the edit.** Elements that differ
in a clock are matched alike by all filters on all days exactly if their stamps have one date, or a
check is noted that is no earlier than the date of either, which comes to one date of the last check.
Filters without a predicate on the age match them alike in any case. -/
theorem matchedAlike_iff (h : DiffersInClock a b) :
    (MatchedAlike a b ↔ a.editDate = b.editDate ∨
      ∃ c, a.Notes c ∧ (∀ d ∈ a.editDate, d ≤ c) ∧ ∀ d ∈ b.editDate, d ≤ c) ∧
    (MatchedAlike a b ↔ a.lastCheck = b.lastCheck) ∧
    ∀ (f : Filter) (today : Date), (∀ age l, .aged age l ∉ f.leaves) →
      f.accepts today a = f.accepts today b := by
  have hiff : MatchedAlike a b ↔ a.lastCheck = b.lastCheck := by
    refine ⟨lastCheck_eq_of_matchedAlike h, fun hcheck _ _ f _ today ↦ ?_⟩
    rw [Filter.accepts, Filter.accepts, examine_congr_of_lastCheck h f today (.inr hcheck)]
  refine ⟨hiff.trans (lastCheck_eq_iff h), hiff, fun f today hf ↦ ?_⟩
  rw [Filter.accepts, Filter.accepts, examine_congr_of_lastCheck h f today (.inl hf)]

/-- Half an hour before midnight in universal time, the date is the next one to the east. A check
that was noted on that day makes up for it. -/
theorem matchedAlike_iff_midnight :
    let universal : Stamp := ⟨⟨2024, 1, 1, by decide⟩, 23, 30, 0, 0, 0, by decide⟩
    let eastern : Stamp := ⟨⟨2024, 1, 2, by decide⟩, 0, 30, 0, 0, 60, by decide⟩
    let a : Element := ⟨.node, 1, .ofList [("check_date", "2024-01-02")], some universal⟩
    let b : Element := ⟨.node, 1, .ofList [("check_date", "2024-01-02")], some eastern⟩
    let shops : Filter := ⟨"nodes with shop", .ofList [.node], some (.leaf (.hasKey "shop")),
      .standard⟩
    DiffersInClock a b ∧ (∀ age l, .aged age l ∉ shops.leaves) ∧ a.editDate ≠ b.editDate ∧
      MatchedAlike a b ∧ shops.accepts universal.date a = shops.accepts universal.date b := by
  intro universal eastern a b shops
  have h : DiffersInClock a b := differsInClock_of_same (by decide)
  have hshops : ∀ age l, .aged age l ∉ shops.leaves := by
    rintro age l (⟨⟩ | ⟨_, ⟨⟩⟩)
  obtain ⟨halike, -, hplain⟩ := matchedAlike_iff h
  refine ⟨h, hshops, by decide, halike.mpr (.inr ?_), hplain shops _ hshops⟩
  exact ⟨eastern.date, ⟨"check_date", by decide, "2024-01-02", by decide, by decide⟩, by decide,
    by decide⟩

/-- Without a check that is noted, the same element is older than its eastern date and is not, by the
clock of its stamp. -/
theorem not_matchedAlike_of_same : ¬∀ a b : Element, same a b = true → MatchedAlike a b := by
  intro h
  let universal : Stamp := ⟨⟨2024, 1, 1, by decide⟩, 23, 30, 0, 0, 0, by decide⟩
  let eastern : Stamp := ⟨⟨2024, 1, 2, by decide⟩, 0, 30, 0, 0, 60, by decide⟩
  have halike := h ⟨.node, 1, .empty, some universal⟩ ⟨.node, 1, .empty, some eastern⟩ (by decide)
  exact not_lt_of_matchedAlike halike rfl rfl (by decide : universal.date < eastern.date)

end Element

end TagQuery
