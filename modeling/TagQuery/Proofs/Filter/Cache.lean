import Mathlib.Data.Finset.Card
import Mathlib.Data.Finset.Dedup
import TagQuery.Filter.Cache
import TagQuery.Proofs.Filter.Compilation

/-!
# What a cache has served

A cache that began empty is described by the requests that it has answered (`HasServed`): its
entries are the successful answers, each under the text that was asked for, and the answers are
those of compiling the texts anew. One request keeps this so, whether its text is already there, is
compiled, or does not compile (`HasServed.step`); hence it holds after every run
(`HasServed.at_request`), and all that can be seen of a cache follows (`history_of_new`).

Two answers are the same kept filter exactly if they have one serial number. The serial numbers lie
below the size of the cache, so the next one is always new.
-/

namespace TagQuery

/-- A request to a cache, with the cache before it, the answer, and the cache after it. -/
structure Request where
  source : String
  before : FilterCache
  answer : Except QueryError KeptFilter
  after : FilterCache

namespace FilterCache

/-- A text asked for. -/
def request (c : FilterCache) (source : String) : Request :=
  ⟨source, c, (c.getOrCompile source).1, (c.getOrCompile source).2⟩

/-- Texts asked for one after the other. -/
def history (c : FilterCache) : List String → List Request
  | [] => []
  | source :: sources => c.request source :: history (c.request source).after sources

theorem run_eq_map_history (c : FilterCache) (sources : List String) :
    c.run sources = (c.history sources).map fun r ↦ (r.answer, r.after) := by
  induction sources generalizing c with
  | nil => rfl
  | cons source sources ih => rw [run, history, List.map_cons, ih]; rfl

theorem map_source_history (c : FilterCache) (sources : List String) :
    (c.history sources).map (·.source) = sources := by
  induction sources generalizing c with
  | nil => rfl
  | cons source sources ih => rw [history, List.map_cons, ih]; rfl

/-- The texts of the requests that were answered by a filter. -/
def succeeded (past : List Request) : Finset String :=
  ((past.filter (·.answer.isOk)).map (·.source)).toFinset

theorem mem_succeeded_iff {past : List Request} {source : String} :
    source ∈ succeeded past ↔ ∃ r ∈ past, r.source = source ∧ ∃ k, r.answer = .ok k := by
  simp only [succeeded, List.mem_toFinset, List.mem_map, List.mem_filter]
  constructor
  · rintro ⟨r, ⟨hr, hok⟩, rfl⟩
    cases hanswer : r.answer with
    | error e =>
      rw [hanswer] at hok
      cases hok
    | ok k => exact ⟨r, hr, rfl, k, hanswer⟩
  · rintro ⟨r, hr, rfl, k, hk⟩
    exact ⟨r, ⟨hr, by rw [hk]; rfl⟩, rfl⟩

/-! ## One request -/

/-- All that a request can come to: the text is there, is compiled and kept, or does not compile. -/
theorem getOrCompile_cases (c : FilterCache) (source : String) :
    (∃ k, c.entries.get? source = some k ∧ c.getOrCompile source = (.ok k, c)) ∨
    (c.entries.get? source = none ∧ ∃ f, Filter.ofSource c.units source = .ok f ∧
      c.getOrCompile source = (.ok ⟨f, c.size⟩, c.keep source ⟨f, c.size⟩)) ∨
    (c.entries.get? source = none ∧ ∃ e, Filter.ofSource c.units source = .error e ∧
      c.getOrCompile source = (.error e, c)) := by
  rw [getOrCompile]
  cases hget : c.entries.get? source with
  | some k => exact .inl ⟨k, rfl, rfl⟩
  | none =>
    cases hcompile : Filter.ofSource c.units source with
    | ok f => exact .inr (.inl ⟨rfl, f, rfl, rfl⟩)
    | error e => exact .inr (.inr ⟨rfl, e, rfl, rfl⟩)

/-- A request that fails leaves the cache as it was. -/
theorem after_eq_of_error {c : FilterCache} {source : String} {e : QueryError}
    (h : (c.request source).answer = .error e) : (c.request source).after = c := by
  rw [request] at h ⊢
  rcases c.getOrCompile_cases source with ⟨k, -, hstep⟩ | ⟨-, f, -, hstep⟩ | ⟨-, e', -, hstep⟩
  · rw [hstep]
  · rw [hstep] at h
    cases h
  · rw [hstep]

/-- What a cache that began empty is after some requests. -/
structure HasServed (units : UnitTable) (past : List Request) (c : FilterCache) : Prop where
  units_eq : c.units = units
  get?_eq_some_iff : ∀ source k, c.entries.get? source = some k ↔
    ∃ r ∈ past, r.source = source ∧ r.answer = .ok k
  answer_eq : ∀ r ∈ past, r.answer.map (·.filter) = Filter.ofSource units r.source
  serial_lt : ∀ source k, c.entries.get? source = some k → k.serial < c.size
  serial_inj : ∀ source source' k k', c.entries.get? source = some k →
    c.entries.get? source' = some k' → k.serial = k'.serial → source = source'

namespace HasServed

variable {units : UnitTable} {past : List Request} {c : FilterCache}

theorem new (units : UnitTable) : HasServed units [] (.new units) := by
  have hget : ∀ source k, (FilterCache.new units).entries.get? source ≠ some k := by
    intro source k h
    cases h
  refine ⟨rfl, fun source k ↦ ⟨fun h ↦ absurd h (hget source k), ?_⟩,
    fun r hr ↦ absurd hr List.not_mem_nil, fun source k h ↦ absurd h (hget source k),
    fun source _ k _ h ↦ absurd h (hget source k)⟩
  rintro ⟨r, hr, -⟩
  exact absurd hr List.not_mem_nil

/-- The size of the cache is the number of texts that have succeeded. -/
theorem size_eq (h : HasServed units past c) : c.size = (succeeded past).card := by
  have hkeys : c.entries.keys.toFinset = succeeded past := by
    ext source
    rw [List.mem_toFinset, Dictionary.mem_keys_iff, mem_succeeded_iff]
    constructor
    · rintro ⟨k, hk⟩
      obtain ⟨r, hr, hsource, hanswer⟩ := (h.get?_eq_some_iff _ _).mp hk
      exact ⟨r, hr, hsource, k, hanswer⟩
    · rintro ⟨r, hr, hsource, k, hanswer⟩
      exact ⟨k, (h.get?_eq_some_iff _ _).mpr ⟨r, hr, hsource, hanswer⟩⟩
  rw [FilterCache.size, Dictionary.size_eq_length_keys, ← hkeys,
    List.toFinset_card_of_nodup c.entries.nodup_keys]

/-- A kept filter was compiled from the text under which it is kept. -/
theorem ofSource_of_get? (h : HasServed units past c) {source : String} {k : KeptFilter}
    (hk : c.entries.get? source = some k) : Filter.ofSource units source = .ok k.filter := by
  obtain ⟨r, hr, rfl, hanswer⟩ := (h.get?_eq_some_iff _ _).mp hk
  rw [← h.answer_eq r hr, hanswer]
  rfl

/-- An answer that changes no look-up: the text was already there, or has failed. -/
theorem append_of_unchanged (h : HasServed units past c) {r : Request}
    (hanswer : r.answer.map (·.filter) = Filter.ofSource units r.source)
    (hkept : ∀ k, r.answer = .ok k → c.entries.get? r.source = some k) :
    HasServed units (past ++ [r]) c where
  units_eq := h.units_eq
  get?_eq_some_iff source k := by
    rw [h.get?_eq_some_iff]
    constructor
    · rintro ⟨r', hr', hfacts⟩
      exact ⟨r', List.mem_append_left _ hr', hfacts⟩
    · rintro ⟨r', hr', rfl, hk⟩
      rcases List.mem_append.mp hr' with hr' | hr'
      · exact ⟨r', hr', rfl, hk⟩
      · obtain rfl := List.mem_singleton.mp hr'
        exact (h.get?_eq_some_iff _ _).mp (hkept k hk)
  answer_eq r' hr' := by
    rcases List.mem_append.mp hr' with hr' | hr'
    · exact h.answer_eq r' hr'
    · obtain rfl := List.mem_singleton.mp hr'
      exact hanswer
  serial_lt := h.serial_lt
  serial_inj := h.serial_inj

/-- A text that was not there is compiled and kept. -/
theorem append_of_kept (h : HasServed units past c) {r : Request} {f : Filter}
    (hnew : c.entries.get? r.source = none) (hf : Filter.ofSource units r.source = .ok f)
    (hanswer : r.answer = .ok ⟨f, c.size⟩) :
    HasServed units (past ++ [r]) (c.keep r.source ⟨f, c.size⟩) := by
  have hget : ∀ source, (c.keep r.source ⟨f, c.size⟩).entries.get? source =
      if source = r.source then some ⟨f, c.size⟩ else c.entries.get? source :=
    fun source ↦ Dictionary.get?_insert _ _ _ _
  have hsize : (c.keep r.source ⟨f, c.size⟩).size = c.size + 1 := Dictionary.size_insert hnew _
  -- no earlier request for this text can have succeeded, or it would be there
  have hunasked : ∀ r' ∈ past, ∀ k, r'.answer = .ok k → r'.source ≠ r.source := by
    intro r' hr' k hk heq
    have hfound := (h.get?_eq_some_iff _ _).mpr ⟨r', hr', heq, hk⟩
    rw [hnew] at hfound
    cases hfound
  refine ⟨h.units_eq, fun source k ↦ ?_, fun r' hr' ↦ ?_, fun source k hk ↦ ?_,
    fun source source' k k' hk hk' hserial ↦ ?_⟩
  · rw [hget]
    by_cases hsource : source = r.source
    · rw [if_pos hsource]
      constructor
      · rintro ⟨⟩
        exact ⟨r, List.mem_append_right _ List.mem_cons_self, hsource.symm, hanswer⟩
      · rintro ⟨r', hr', hsource', hk⟩
        rcases List.mem_append.mp hr' with hr' | hr'
        · exact absurd (hsource'.trans hsource) (hunasked r' hr' k hk)
        · obtain rfl := List.mem_singleton.mp hr'
          rw [Except.ok.inj (hanswer.symm.trans hk)]
    · rw [if_neg hsource, h.get?_eq_some_iff]
      constructor
      · rintro ⟨r', hr', hfacts⟩
        exact ⟨r', List.mem_append_left _ hr', hfacts⟩
      · rintro ⟨r', hr', hsource', hk⟩
        rcases List.mem_append.mp hr' with hr' | hr'
        · exact ⟨r', hr', hsource', hk⟩
        · obtain rfl := List.mem_singleton.mp hr'
          exact absurd hsource'.symm hsource
  · rcases List.mem_append.mp hr' with hr' | hr'
    · exact h.answer_eq r' hr'
    · obtain rfl := List.mem_singleton.mp hr'
      rw [hanswer, hf]
      rfl
  · rw [hsize]
    rw [hget] at hk
    split at hk
    · cases hk
      exact Nat.lt_succ_self _
    · exact Nat.lt_succ_of_lt (h.serial_lt source k hk)
  · rw [hget] at hk hk'
    -- a serial number that is new cannot be that of an older filter
    split at hk <;> split at hk'
    · next hs hs' => exact hs.trans hs'.symm
    · cases hk
      exact absurd hserial (Nat.ne_of_gt (h.serial_lt source' k' hk'))
    · cases hk'
      exact absurd hserial (Nat.ne_of_lt (h.serial_lt source k hk))
    · exact h.serial_inj source source' k k' hk hk' hserial

/-- **One more request** keeps the description true. -/
theorem step (h : HasServed units past c) (source : String) :
    HasServed units (past ++ [c.request source]) (c.request source).after := by
  have hanswer : (c.request source).answer = (c.getOrCompile source).1 := rfl
  have hafter : (c.request source).after = (c.getOrCompile source).2 := rfl
  rcases c.getOrCompile_cases source with
    ⟨k, hget, hstep⟩ | ⟨hget, f, hf, hstep⟩ | ⟨-, e, he, hstep⟩
  -- what is found was compiled by an earlier request from the same text
  · rw [hstep] at hanswer hafter
    rw [hafter]
    refine h.append_of_unchanged ?_ fun k' hk' ↦ ?_
    · rw [hanswer, request, h.ofSource_of_get? hget]
      rfl
    · rw [← Except.ok.inj (hanswer.symm.trans hk')]
      exact hget
  · rw [hstep] at hanswer hafter
    rw [h.units_eq] at hf
    rw [hafter]
    exact h.append_of_kept hget hf hanswer
  · rw [hstep] at hanswer hafter
    rw [h.units_eq] at he
    rw [hafter]
    refine h.append_of_unchanged ?_ fun k' hk' ↦ ?_
    · rw [hanswer, request, he]
      rfl
    · rw [hanswer] at hk'
      cases hk'

/-- **At every request of a run** the description is true before it. -/
theorem at_request (h : HasServed units past c) {sources : List String} {earlier : List Request}
    {r : Request} {later : List Request} (hr : c.history sources = earlier ++ r :: later) :
    HasServed units (past ++ earlier) r.before ∧ r = r.before.request r.source := by
  induction sources generalizing past c earlier with
  | nil => cases List.append_ne_nil_of_right_ne_nil earlier (List.cons_ne_nil r later) hr.symm
  | cons source sources ih =>
    rw [history] at hr
    cases earlier with
    | nil =>
      obtain ⟨rfl, -⟩ := List.cons_eq_cons.mp hr
      rw [List.append_nil]
      exact ⟨h, rfl⟩
    | cons first earlier =>
      obtain ⟨rfl, htail⟩ := List.cons_eq_cons.mp hr
      obtain ⟨hserved, hrequest⟩ := ih (h.step source) htail
      rw [List.append_assoc] at hserved
      exact ⟨hserved, hrequest⟩

/-- Successful requests were answered by the same kept filter exactly if they asked for the same
text. -/
theorem serial_eq_iff (h : HasServed units past c) {r r' : Request} {k k' : KeptFilter}
    (hr : r ∈ past) (hr' : r' ∈ past) (hk : r.answer = .ok k) (hk' : r'.answer = .ok k') :
    (k.serial = k'.serial ↔ r.source = r'.source) ∧ (r.source = r'.source → k = k') := by
  have hget := (h.get?_eq_some_iff _ _).mpr ⟨r, hr, rfl, hk⟩
  have hget' := (h.get?_eq_some_iff _ _).mpr ⟨r', hr', rfl, hk'⟩
  have heq : r.source = r'.source → k = k' := by
    intro hsource
    rw [hsource, hget'] at hget
    exact (Option.some.inj hget).symm
  exact ⟨⟨h.serial_inj _ _ _ _ hget hget', fun hsource ↦ congrArg _ (heq hsource)⟩, heq⟩

end HasServed

/-! ## Runs -/

/-- **What a cache that began empty answers.** After any requests the next answer is what compiling
its text anew gives, filter or fault. Two successful requests get one and the same kept filter
exactly if their texts are the same, a request that fails leaves the cache as it was, and after each
request the cache keeps, each under its own text, just the filters that were given out so far. -/
theorem history_of_new (units : UnitTable) (sources : List String) :
    let history := (new units).history sources
    ((new units).run sources = history.map fun r ↦ (r.answer, r.after)) ∧
    history.map (·.source) = sources ∧
    (∀ r ∈ history, r.answer.map (·.filter) = Filter.ofSource units r.source ∧
      ∀ e, r.answer = .error e → r.after = r.before) ∧
    (∀ r ∈ history, ∀ r' ∈ history, ∀ k k', r.answer = .ok k → r'.answer = .ok k' →
      (k.serial = k'.serial ↔ r.source = r'.source) ∧ (r.source = r'.source → k = k')) ∧
    ∀ earlier r later, history = earlier ++ r :: later →
      r.after.size = (succeeded (earlier ++ [r])).card ∧
      (∀ source k, r.after.entries.get? source = some k ↔
        ∃ r' ∈ earlier ++ [r], r'.source = source ∧ r'.answer = .ok k) ∧
      ∀ source k, r.before.entries.get? source = some k →
        r.after.entries.get? source = some k ∧ k.filter.source = source := by
  intro history
  have hbefore : ∀ {earlier r later}, history = earlier ++ r :: later →
      HasServed units earlier r.before ∧ r = r.before.request r.source :=
    fun hr ↦ (HasServed.new units).at_request hr
  have hafter : ∀ {earlier r later}, history = earlier ++ r :: later →
      HasServed units (earlier ++ [r]) r.after := by
    intro earlier r later hr
    obtain ⟨hserved, hrequest⟩ := hbefore hr
    have hstep := hserved.step r.source
    rw [← hrequest] at hstep
    exact hstep
  refine ⟨run_eq_map_history _ _, map_source_history _ _, fun r hr ↦ ?_, fun r hr r' hr' ↦ ?_,
    fun earlier r later hr ↦ ?_⟩
  · obtain ⟨earlier, later, hsplit⟩ := List.append_of_mem hr
    refine ⟨(hafter hsplit).answer_eq r (List.mem_append_right _ List.mem_cons_self), ?_⟩
    intro e he
    obtain ⟨-, hrequest⟩ := hbefore hsplit
    rw [hrequest] at he
    rw [hrequest]
    exact after_eq_of_error he
  · intro k k' hk hk'
    -- both requests are past after the last one
    rcases history.eq_nil_or_concat' with hnil | ⟨earlier, last, hlast⟩
    · rw [hnil] at hr
      cases hr
    · have hserved := hafter hlast
      rw [← hlast] at hserved
      exact hserved.serial_eq_iff hr hr' hk hk'
  · refine ⟨(hafter hr).size_eq, (hafter hr).get?_eq_some_iff, fun source k hk ↦ ⟨?_, ?_⟩⟩
    · obtain ⟨r', hr', hfacts⟩ := ((hbefore hr).1.get?_eq_some_iff source k).mp hk
      exact ((hafter hr).get?_eq_some_iff source k).mpr ⟨r', List.mem_append_left _ hr', hfacts⟩
    · exact Filter.source_of_ofSource ((hbefore hr).1.ofSource_of_get? hk)

/-- A text with a blank before it is another text: it gets a filter of its own, as good as the
first. What does not compile in between is not kept. -/
theorem history_of_new_nodes :
    let history := (new .standard).history ["nodes", "nodes with (", " nodes", "nodes"]
    ∃ first faulty spaced last k k', history = [first, faulty, spaced, last] ∧
      first.answer = .ok k ∧ spaced.answer = .ok k' ∧ last.answer = .ok k ∧
      k.serial ≠ k'.serial ∧ faulty.after = faulty.before ∧ last.after.size = 2 := by
  intro history
  obtain ⟨-, -, hanswer, hsame, hafter⟩ :=
    history_of_new .standard ["nodes", "nodes with (", " nodes", "nodes"]
  have hsuccess : ∀ r ∈ history, (Filter.ofSource .standard r.source).isOk = true →
      ∃ k, r.answer = .ok k := by
    intro r hr hok
    rw [← (hanswer r hr).1] at hok
    cases hk : r.answer with
    | ok k => exact ⟨k, rfl⟩
    | error e =>
      rw [hk] at hok
      cases hok
  let first := (new .standard).request "nodes"
  let faulty := first.after.request "nodes with ("
  let spaced := faulty.after.request " nodes"
  let last := spaced.after.request "nodes"
  have hfirst : first ∈ history := .head _
  have hfaulty : faulty ∈ history := .tail _ (.head _)
  have hspaced : spaced ∈ history := .tail _ (.tail _ (.head _))
  have hlast : last ∈ history := .tail _ (.tail _ (.tail _ (.head _)))
  obtain ⟨k, hk⟩ := hsuccess first hfirst (by decide +kernel)
  obtain ⟨k', hk'⟩ := hsuccess spaced hspaced (by decide +kernel)
  obtain ⟨k'', hk''⟩ := hsuccess last hlast (by decide +kernel)
  obtain rfl : k = k'' := (hsame first hfirst last hlast k k'' hk hk'').2 rfl
  have hserial : k.serial ≠ k'.serial := by
    rw [Ne, (hsame first hfirst spaced hspaced k k' hk hk').1]
    exact (by decide : "nodes" ≠ " nodes")
  obtain ⟨e, he⟩ : ∃ e, faulty.answer = .error e := by
    cases hanswered : faulty.answer with
    | error e => exact ⟨e, rfl⟩
    | ok k =>
      have hok : (Filter.ofSource .standard faulty.source).isOk = false := by decide +kernel
      rw [← (hanswer faulty hfaulty).1, hanswered] at hok
      cases hok
  refine ⟨first, faulty, spaced, last, k, k', rfl, hk, hk', hk'', hserial,
    (hanswer faulty hfaulty).2 e he, ?_⟩
  rw [(hafter [first, faulty, spaced] last [] rfl).1]
  decide +kernel

end FilterCache

end TagQuery
