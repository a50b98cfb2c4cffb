import TagQuery.Filter.Lazy
import TagQuery.Proofs.Filter.Compilation
import TagQuery.Proofs.Filter.Lookups
import TagQuery.Proofs.Query.Derivation

/-!
# Filters that need no clock

Whether a filter uses dates is decided once, by a walk over its predicates. The evaluator asks for
the date in the middle of a tree of any shape, and only for predicates of two sorts. The two agree:
a filter uses dates exactly if its query speaks about an age or compares with a literal that looks
like a date, and every other filter gives the same answers on all days
(`usesDates_iff_and_answers`). So the day that stands in for the clock's is as good as any.
-/

namespace TagQuery

open Query Sequence

/-- A condition speaks about the day on which it is asked: it is one on the age, or compares with
what looks like a date. -/
inductive Query.Condition.IsDated : Condition → Prop where
  | aged (age : Age) (literal : String) : IsDated (.aged age literal)
  | compares (key : String) (op : Comparison) {literal : String}
      (h : DateLiteral.looksLikeDate literal = true) : IsDated (.compares key op literal)

namespace Predicate

theorem usesDates_of_comparison {units : UnitTable} {key literal : String} {op : Comparison}
    {p : Predicate} (h : comparison units key op literal = .ok p) :
    p.usesDates = DateLiteral.looksLikeDate literal := by
  rw [comparison] at h
  by_cases hdate : DateLiteral.looksLikeDate literal = true
  · rw [if_pos hdate, mapError_eq_ok_iff] at h
    obtain ⟨d, -, rfl⟩ := map_eq_ok_iff.mp h
    exact hdate.symm
  · rw [if_neg hdate, mapError_eq_ok_iff] at h
    obtain ⟨q, -, rfl⟩ := map_eq_ok_iff.mp h
    exact (Bool.eq_false_iff.mpr hdate).symm

/-- A predicate uses dates exactly if its condition speaks about the day. -/
theorem usesDates_iff {units : UnitTable} {c : Condition} {p : Predicate}
    (h : ofCondition units c = .ok p) : p.usesDates = true ↔ c.IsDated := by
  cases c with
  | hasKey | lacksKey | equals | notEquals =>
    cases h
    exact ⟨nofun, nofun⟩
  | matchesAny | matchesNone | hasKeyLike | lacksKeyLike =>
    obtain ⟨_, -, rfl⟩ := map_eq_ok_iff.mp h
    exact ⟨nofun, nofun⟩
  | hasTagLike =>
    obtain ⟨_, -, h⟩ := bind_eq_ok_iff.mp h
    obtain ⟨_, -, ⟨⟩⟩ := bind_eq_ok_iff.mp h
    exact ⟨nofun, nofun⟩
  | compares key op literal =>
    rw [usesDates_of_comparison h]
    constructor
    · exact .compares key op
    · rintro ⟨⟩
      assumption
  | aged age literal =>
    obtain ⟨_, -, rfl⟩ := map_eq_ok_iff.mp (mapError_eq_ok_iff.mp h)
    exact ⟨fun _ ↦ .aged age literal, fun _ ↦ rfl⟩

/-- A predicate that uses no dates gives one answer on all days. -/
theorem evaluate_congr_today {ε : Type} [ElementView ε] {p : Predicate} (h : p.usesDates = false)
    (units : UnitTable) (today today' : Date) (e : ε) :
    p.evaluate units today e = p.evaluate units today' e := by
  cases p with
  | date | aged => cases h
  | _ => rfl

end Predicate

namespace Filter

variable {units : UnitTable} {source : String} {f : Filter}

/-- No leaf is left out when a filter is searched for dates. -/
theorem usesDates_iff_exists_hasLeaf {q : Query} (hf : ofQuery units source q = .ok f) :
    f.usesDates = true ↔
      ∃ expr, q.condition = some expr ∧ ∃ c, expr.HasLeaf c ∧ c.IsDated := by
  obtain ⟨kinds, condition⟩ := q
  rw [usesDates, leaves, List.any_eq_true]
  cases condition with
  | none =>
    obtain rfl := ofQuery_none_eq_ok_iff.mp hf
    constructor
    · rintro ⟨p, hp, -⟩
      exact absurd hp List.not_mem_nil
    · rintro ⟨_, ⟨⟩, _⟩
  | some expr =>
    obtain ⟨compiled, hcompiled, rfl⟩ := ofQuery_some_eq_ok_iff.mp hf
    change (∃ p ∈ compiled.leaves, _) ↔ _
    constructor
    · rintro ⟨p, hp, huses⟩
      obtain ⟨c, hc, hcp⟩ := (Expr.mem_leaves_of_traverse expr hcompiled).mp hp
      exact ⟨expr, rfl, c, Expr.mem_leaves_iff.mp hc, (Predicate.usesDates_iff hcp).mp huses⟩
    · rintro ⟨_, ⟨⟩, c, hc, hdated⟩
      have hleaf : c ∈ expr.leaves := Expr.mem_leaves_iff.mpr hc
      obtain ⟨p, hcp⟩ := (Expr.exists_traverse_iff _ _).mp ⟨compiled, hcompiled⟩ c hleaf
      have hp : p ∈ compiled.leaves :=
        (Expr.mem_leaves_of_traverse expr hcompiled).mpr ⟨c, hleaf, hcp⟩
      exact ⟨p, hp, (Predicate.usesDates_iff hcp).mpr hdated⟩

theorem examine_congr_today {ε : Type} [ElementView ε] (h : f.usesDates = false)
    (today today' : Date) (e : ε) : f.examine today e = f.examine today' e := by
  rw [examine, examine]
  split
  · split
    · rfl
    · next c hc =>
      rw [usesDates, leaves, hc, List.any_eq_false] at h
      refine Expr.evaluate_congr c fun p hp ↦ ?_
      exact Predicate.evaluate_congr_today (Bool.eq_false_iff.mpr (h p hp)) f.units today today' e
  · rfl

theorem accepts_congr_today {ε : Type} [ElementView ε] (h : f.usesDates = false)
    (today today' : Date) (e : ε) : f.accepts today e = f.accepts today' e := by
  rw [accepts, accepts, examine_congr_today h today today' e]

/-- Whichever of two days a sequence is filtered on, the same items are given, and the same part of
the sequence is left. -/
theorem exists_pull_filterAt (h : f.usesDates = false) {σ ε : Type} [FiniteSequence σ ε]
    [ElementView ε] (today today' : Date) (n : Nat) (s : σ) : ∃ taken rest,
    pull n (f.filterAt s today) = (taken, f.filterAt rest today) ∧
      pull n (f.filterAt s today') = (taken, f.filterAt rest today') := by
  have haccepts : f.accepts (ε := ε) today = f.accepts today' :=
    funext (accepts_congr_today h today today')
  induction n generalizing s with
  | zero => exact ⟨[], s, rfl, rfl⟩
  | succ n ih =>
    rw [pull, pull, next_filterAt, next_filterAt, haccepts]
    generalize find (f.accepts today') s = result
    obtain ⟨_ | e, rest⟩ := result
    · exact ⟨[], rest, rfl, rfl⟩
    · obtain ⟨taken, rest', htoday, htoday'⟩ := ih rest
      refine ⟨e :: taken, rest', ?_, ?_⟩
      · dsimp only
        rw [htoday]
      · dsimp only
        rw [htoday']

/-- **A filter that uses no dates needs no clock.** A filter uses dates exactly if some condition of
its query speaks about the day, wherever it stands in the tree. If none does, the answers are the
same on all days, and so the date that is taken without a look at the clock gives the answers of any
other. The same items of a sequence are given on it, and after each of them the same part of the
sequence is left. -/
theorem usesDates_iff_and_answers (h : ofSource units source = .ok f) :
    (∃ q, parse source = .ok q ∧
      (f.usesDates = true ↔
        ∃ expr, q.condition = some expr ∧ ∃ c, expr.HasLeaf c ∧ c.IsDated)) ∧
    (f.usesDates = false → ∀ {ε : Type} [ElementView ε] (e : ε) (today today' : Date),
      f.accepts today e = f.accepts today' e) ∧
    (f.usesDates = false → ∀ {m : Type → Type} [Monad m] [LawfulMonad m] (clock : m Date)
      (today : Date),
      (∀ {ε : Type} [ElementView ε] (e : ε), f.acceptsNow clock e = pure (f.accepts today e)) ∧
      ∀ {σ ε : Type} [FiniteSequence σ ε] [ElementView ε] (s : σ) (n : Nat), ∃ taken rest,
        pull n (f.filterAt s today) = (taken, f.filterAt rest today) ∧
        pull n <$> f.filterNow clock s = pure (taken, f.filterAt rest .first)) := by
  obtain ⟨q, hq, hf⟩ := ofSource_eq_ok_iff.mp h
  refine ⟨⟨q, hq, usesDates_iff_exists_hasLeaf hf⟩,
    fun hdates _ _ e today today' ↦ accepts_congr_today hdates today today' e, ?_⟩
  intro hdates m _ _ clock today
  have hclock : f.clockDate clock = pure .first := by
    rw [clockDate, hdates]
    rfl
  constructor
  · intro ε _ e
    rw [acceptsNow, hclock]
    by_cases hkind : f.kinds.contains (ElementView.kind e) = true
    · rw [if_pos hkind, pure_bind, accepts_congr_today hdates .first today e]
    · rw [if_neg hkind, accepts, examine, if_neg hkind]
      rfl
  · intro σ ε _ _ s n
    obtain ⟨taken, rest, htoday, hfirst⟩ := exists_pull_filterAt hdates today .first n s
    refine ⟨taken, rest, htoday, ?_⟩
    rw [filterNow, hclock, pure_bind, map_pure, hfirst]

/-- A key named `older` is no condition on the age, and a bare year is a number: a clock that does
not work is good enough for the filter. -/
theorem usesDates_iff_and_answers_lanes :
    let source := "ways with lanes > 2020 and not ( older or ~ check_date )"
    ∃ f, ofSource .standard source = .ok f ∧ f.usesDates = false ∧
      ∀ today : Date,
        (∀ e : Element, f.acceptsNow (.error () : Except Unit Date) e = .ok (f.accepts today e)) ∧
        ∀ (es : List Element) (n : Nat), ∃ taken rest,
          pull n (f.filterAt es today) = (taken, f.filterAt rest today) ∧
          pull n <$> f.filterNow (.error () : Except Unit Date) es =
            .ok (taken, f.filterAt rest .first) := by
  intro source
  let lanes : Grammar.Operand := .leaf (.compares (.word "lanes") .greater ⟨.word "2020", []⟩)
  let older : Grammar.Operand := .leaf (.key (.word "older"))
  let checked : Grammar.Operand := .leaf (.keysLike ⟨.word "check_date", []⟩)
  let either : Grammar.Disjunction := .chain (.chain older []) [.chain checked []]
  let d : Grammar.Derivation :=
    ⟨⟨.way, []⟩, some (.chain (.chain lanes [.not (.parens either)]) [])⟩
  have hsource : source.toList = spelled d.tokens := by decide +kernel
  have hlexes : Lexes source.toList d.tokens := hsource ▸ lexes_spelled (by decide +kernel)
  have hparse : parse source = .ok d.meaning := parse_eq_ok_iff_lexes.mpr ⟨d, hlexes, rfl⟩
  let expr : Expr Condition := .all [.leaf (.compares "lanes" .greater "2020"),
    .not (.any [.leaf (.hasKey "older"), .leaf (.hasKeyLike ["check_date"])])]
  have hcompiles : ∀ c ∈ expr.leaves, ∃ p, Predicate.ofCondition .standard c = .ok p := by
    rintro c (⟨⟩ | ⟨_, ⟨⟩ | ⟨_, ⟨⟩ | ⟨_, ⟨⟩⟩⟩⟩) <;> exact ⟨_, rfl⟩
  obtain ⟨c, hc⟩ := (Expr.exists_traverse_iff _ _).mpr hcompiles
  have hf : ofSource .standard source = .ok ⟨source, .ofList [.way], some c, .standard⟩ :=
    ofSource_eq_ok_iff.mpr ⟨_, hparse, ofQuery_some_eq_ok_iff.mpr ⟨c, hc, rfl⟩⟩
  obtain ⟨⟨q, hq, hdates⟩, -, hanswers⟩ := usesDates_iff_and_answers hf
  have huses : Filter.usesDates ⟨source, .ofList [.way], some c, .standard⟩ = false := by
    rw [Bool.eq_false_iff, Ne, hdates]
    obtain rfl := Except.ok.inj (hparse.symm.trans hq)
    rintro ⟨_, ⟨⟩, a, ha, hdated⟩
    rcases Expr.mem_leaves_iff.mpr ha with ⟨⟩ | ⟨_, ⟨⟩ | ⟨_, ⟨⟩ | ⟨_, ⟨⟩⟩⟩⟩
    · cases hdated with
      | compares _ _ h => exact absurd h (by decide +kernel)
    · cases hdated
    · cases hdated
  refine ⟨_, hf, huses, fun today ↦ ?_⟩
  obtain ⟨haccepts, hpull⟩ := hanswers huses (.error () : Except Unit Date) today
  exact ⟨haccepts, hpull⟩

end Filter

end TagQuery
