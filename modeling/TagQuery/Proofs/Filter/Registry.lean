import TagQuery.Proofs.Filter.Cache
import TagQuery.Proofs.Text.ByteOrder
import TagQuery.Run.Program

/-!
# Checking settings and loading them

Checking settings compiles every named query and collects the results. Loading them compiles the
same queries but ends at the first one that is faulty. Both go through a cache, which remembers what
compiled and forgets what did not, so it could matter what the cache was asked before.

It does not matter. Loading comes to what checking from the same cache reports, cut down to the
first fault or, if there is none, to the filters (`Registry.ofEntries_eq`). A cache answers a
request that it has answered before as it did then (`FilterCache.HasServed.getOrCompile_eq`), so all
reports can be read off the cache that is left in the end (`CheckReport.fst_ofEntries`). Up to the
serial numbers they are what compiling each query anew gives, whatever the cache was asked before
(`CheckReport.map_verdict_ofEntries`). From this follows how checking and loading agree
(`Registry.check_and_load`).
-/

namespace TagQuery

/-! ## A cache after requests -/

namespace FilterCache

/-- The cache after several requests. -/
def after (c : FilterCache) : List String → FilterCache
  | [] => c
  | source :: sources => after (c.getOrCompile source).2 sources

namespace HasServed

variable {units : UnitTable} {past : List Request} {c : FilterCache}

/-- **Several more requests** keep the description true. -/
theorem after (h : HasServed units past c) (sources : List String) :
    HasServed units (past ++ c.history sources) (c.after sources) := by
  induction sources generalizing past c with
  | nil => rwa [history, List.append_nil]
  | cons source sources ih =>
    have hrest := ih (h.step source)
    rwa [List.append_assoc] at hrest

/-- What has been asked before is answered in the same way again. -/
theorem getOrCompile_eq (h : HasServed units past c) {r : Request} (hr : r ∈ past) :
    (c.getOrCompile r.source).1 = r.answer := by
  have hcompiled := h.answer_eq r hr
  cases hanswer : r.answer with
  | ok k =>
    rw [getOrCompile, (h.get?_eq_some_iff _ _).mpr ⟨r, hr, rfl, hanswer⟩]
  | error e =>
    rw [hanswer] at hcompiled
    rcases c.getOrCompile_cases r.source with ⟨k, hget, -⟩ | ⟨-, f, hf, -⟩ | ⟨-, e', he, hstep⟩
    · rw [h.ofSource_of_get? hget] at hcompiled
      cases hcompiled
    · rw [h.units_eq, ← hcompiled] at hf
      cases hf
    · rw [h.units_eq, ← hcompiled] at he
      cases he
      rw [hstep]

/-- The next answer is what compiling its text anew gives. -/
theorem map_filter_getOrCompile (h : HasServed units past c) (source : String) :
    (c.getOrCompile source).1.map (·.filter) = Filter.ofSource units source :=
  (h.step source).answer_eq _ (List.mem_append_right _ List.mem_cons_self)

/-- What has succeeded are the texts asked for that compile. -/
theorem mem_succeeded_iff (h : HasServed units past c) {source : String} :
    source ∈ succeeded past ↔
      source ∈ past.map (·.source) ∧ (Filter.ofSource units source).isOk = true := by
  rw [FilterCache.mem_succeeded_iff, List.mem_map]
  constructor
  · rintro ⟨r, hr, rfl, k, hanswer⟩
    refine ⟨⟨r, hr, rfl⟩, ?_⟩
    rw [← h.answer_eq r hr, hanswer]
    rfl
  · rintro ⟨⟨r, hr, rfl⟩, hok⟩
    refine ⟨r, hr, rfl, ?_⟩
    rw [← h.answer_eq r hr] at hok
    cases hanswer : r.answer with
    | ok k => exact ⟨k, rfl⟩
    | error e =>
      rw [hanswer] at hok
      cases hok

/-- Later answers are one kept filter exactly if they are given for the same text. -/
theorem serial_eq_iff_of_getOrCompile (h : HasServed units past c) {source source' : String}
    (hs : source ∈ past.map (·.source)) (hs' : source' ∈ past.map (·.source)) {k k' : KeptFilter}
    (hk : (c.getOrCompile source).1 = .ok k) (hk' : (c.getOrCompile source').1 = .ok k') :
    (k.serial = k'.serial ↔ source = source') ∧ (source = source' → k = k') := by
  obtain ⟨r, hr, rfl⟩ := List.mem_map.mp hs
  obtain ⟨r', hr', rfl⟩ := List.mem_map.mp hs'
  rw [h.getOrCompile_eq hr] at hk
  rw [h.getOrCompile_eq hr'] at hk'
  exact h.serial_eq_iff hr hr' hk hk'

end HasServed

end FilterCache

/-! ## Reports -/

namespace CheckReport

open FilterCache

/-- The fault that keeps a reported query from being loaded. -/
def fault? (r : CheckReport) : Option RegistryError :=
  match r.result with
  | .ok _ => none
  | .error e => some ⟨r.name, e⟩

/-- The name of a reported query with its filter or fault, regardless of the number under which the
filter is kept. -/
def verdict (r : CheckReport) : String × Except QueryError Filter :=
  (r.name, r.result.map (·.filter))

theorem fault?_eq_of_verdict_eq {r s : CheckReport} (h : r.verdict = s.verdict) :
    r.fault? = s.fault? := by
  obtain ⟨name, result⟩ := r
  obtain ⟨name', result'⟩ := s
  obtain ⟨rfl, hresult⟩ := Prod.mk.inj h
  cases result with
  | ok k =>
    cases result' with
    | ok k' => rfl
    | error e' => cases hresult
  | error e =>
    cases result' with
    | ok k' => cases hresult
    | error e' => rw [Except.error.inj hresult]

theorem fault?_eq_none_iff {r : CheckReport} : r.fault? = none ↔ r.failed = false := by
  obtain ⟨name, result⟩ := r
  cases result with
  | ok k => exact ⟨fun _ ↦ rfl, fun _ ↦ rfl⟩
  | error e => exact ⟨nofun, nofun⟩

theorem fault?_eq_some_iff {r : CheckReport} {e : RegistryError} :
    r.fault? = some e ↔ r.name = e.name ∧ r.result = .error e.error := by
  obtain ⟨name, result⟩ := r
  cases result with
  | ok k => exact ⟨nofun, fun h ↦ nomatch h.2⟩
  | error fault =>
    constructor
    · rintro ⟨⟩
      exact ⟨rfl, rfl⟩
    · rintro ⟨rfl, ⟨⟩⟩
      rfl

/-- The filters among reports, under their names. -/
def kept (reports : List CheckReport) : List (String × KeptFilter) :=
  reports.filterMap fun r ↦ r.result.toOption.map (r.name, ·)

theorem mem_kept_iff {reports : List CheckReport} {name : String} {k : KeptFilter} :
    (name, k) ∈ kept reports ↔ ⟨name, .ok k⟩ ∈ reports := by
  rw [kept, List.mem_filterMap]
  constructor
  · rintro ⟨⟨name', result⟩, hr, hk⟩
    cases result with
    | error e => cases hk
    | ok k' =>
      cases hk
      exact hr
  · intro hr
    exact ⟨_, hr, rfl⟩

theorem pairwise_kept {reports : List CheckReport}
    (h : reports.Pairwise fun r s ↦ r.name < s.name) :
    (kept reports).Pairwise fun a b ↦ a.1 < b.1 := by
  rw [kept, List.pairwise_filterMap]
  refine h.imp fun {r s} hlt a ha b hb ↦ ?_
  obtain ⟨k, -, rfl⟩ := Option.map_eq_some_iff.mp ha
  obtain ⟨k', -, rfl⟩ := Option.map_eq_some_iff.mp hb
  exact hlt

/-- The first fault among reports depends on their verdicts alone. -/
theorem findSome?_fault?_eq {reports reports' : List CheckReport}
    (h : reports.map verdict = reports'.map verdict) :
    reports.findSome? fault? = reports'.findSome? fault? := by
  induction reports generalizing reports' with
  | nil =>
    cases reports' with
    | nil => rfl
    | cons r' reports' => cases h
  | cons r reports ih =>
    cases reports' with
    | nil => cases h
    | cons r' reports' =>
      obtain ⟨hhead, htail⟩ := List.cons_eq_cons.mp h
      rw [List.findSome?_cons, List.findSome?_cons, fault?_eq_of_verdict_eq hhead, ih htail]

theorem snd_ofEntries (entries : List (String × String)) (c : FilterCache) :
    (ofEntries entries c).2 = c.after (entries.map (·.2)) := by
  induction entries generalizing c with
  | nil => rfl
  | cons e entries ih => exact ih _

/-- **The reports on named queries** are the answers of the cache that is left in the end. -/
theorem fst_ofEntries {units : UnitTable} {past : List Request} {c : FilterCache}
    (h : HasServed units past c) (entries : List (String × String)) :
    (ofEntries entries c).1 =
      entries.map fun e ↦ ⟨e.1, ((c.after (entries.map (·.2))).getOrCompile e.2).1⟩ := by
  induction entries generalizing past c with
  | nil => rfl
  | cons e entries ih =>
    have hstep := h.step e.2
    have hlast := (hstep.after (entries.map (·.2))).getOrCompile_eq
      (List.mem_append_left _ (List.mem_append_right _ List.mem_cons_self))
    exact congrArg₂ _ (congrArg _ hlast.symm) (ih hstep)

/-- **The verdicts on named queries** are those of compiling each one anew. -/
theorem map_verdict_ofEntries {units : UnitTable} {past : List Request} {c : FilterCache}
    (h : HasServed units past c) (entries : List (String × String)) :
    (ofEntries entries c).1.map verdict =
      entries.map fun e ↦ (e.1, Filter.ofSource units e.2) := by
  induction entries generalizing past c with
  | nil => rfl
  | cons e entries ih =>
    exact congrArg₂ _ (congrArg _ (h.map_filter_getOrCompile e.2)) (ih (h.step e.2))

/-- Reports on the queries of settings come in the order of the names. -/
theorem pairwise_ofSettings {units : UnitTable} {past : List Request} {c : FilterCache}
    (h : HasServed units past c) (settings : Settings) :
    (ofSettings settings c).1.Pairwise fun r s ↦ r.name < s.name := by
  rw [ofSettings, fst_ofEntries h, List.pairwise_map]
  exact settings.filters.sorted

/-- A report on the queries of settings says what the cache that is left answers for the text. -/
theorem mem_ofSettings_iff {units : UnitTable} {past : List Request} {c : FilterCache}
    (h : HasServed units past c) {settings : Settings} {r : CheckReport} :
    r ∈ (ofSettings settings c).1 ↔ ∃ source, settings.filters.get? r.name = some source ∧
      ((ofSettings settings c).2.getOrCompile source).1 = r.result := by
  rw [ofSettings, fst_ofEntries h, snd_ofEntries, List.mem_map]
  constructor
  · rintro ⟨⟨name, source⟩, hentry, rfl⟩
    exact ⟨source, Dictionary.mem_entries_iff.mp hentry, rfl⟩
  · rintro ⟨source, hentry, hresult⟩
    exact ⟨_, Dictionary.mem_entries_iff.mpr hentry, congrArg _ hresult⟩

end CheckReport

/-! ## Loading -/

namespace Registry

open FilterCache

/-- **Loading named queries** comes to what checking them reports, cut down to the first fault or,
if there is none, to the filters. -/
theorem ofEntries_eq (entries : List (String × String)) (c : FilterCache) :
    ofEntries entries c =
      match (CheckReport.ofEntries entries c).1.findSome? CheckReport.fault? with
      | some e => .error e
      | none => .ok (CheckReport.kept (CheckReport.ofEntries entries c).1) := by
  induction entries generalizing c with
  | nil => rfl
  | cons e entries ih =>
    rw [ofEntries, CheckReport.ofEntries, List.findSome?_cons, CheckReport.kept,
      List.filterMap_cons]
    cases hanswer : c.getOrCompile e.2 with
    | mk answer c' =>
      cases answer with
      | error fault => rfl
      | ok k =>
        dsimp only [CheckReport.fault?, Except.toOption, Option.map_some]
        rw [ih]
        cases (CheckReport.ofEntries entries c').1.findSome? CheckReport.fault? with
        | some e => rfl
        | none => rfl

variable {units : UnitTable} {past : List Request} {c : FilterCache} {settings : Settings}

/-- The first fault of loading is that of checking, though the caches may have been asked different
things before. -/
theorem ofSettings_eq_error_iff (h : HasServed units past c) {past' : List Request}
    {c' : FilterCache} (h' : HasServed units past' c') {e : RegistryError} :
    ofSettings settings c = .error e ↔
      (CheckReport.ofSettings settings c').1.findSome? CheckReport.fault? = some e := by
  have hverdicts := (CheckReport.map_verdict_ofEntries h settings.filters.entries).trans
    (CheckReport.map_verdict_ofEntries h' settings.filters.entries).symm
  rw [ofSettings, ofEntries_eq, CheckReport.ofSettings, CheckReport.findSome?_fault?_eq hverdicts]
  cases (CheckReport.ofEntries settings.filters.entries c').1.findSome? CheckReport.fault? with
  | none => exact ⟨nofun, nofun⟩
  | some e' =>
    exact ⟨fun h ↦ congrArg _ (Except.error.inj h), fun h ↦ congrArg _ (Option.some.inj h)⟩

/-- Loading succeeds if checking reports no fault, and only then. -/
theorem exists_ofSettings_eq_ok_iff (h : HasServed units past c) {past' : List Request}
    {c' : FilterCache} (h' : HasServed units past' c') :
    (∃ registry, ofSettings settings c = .ok registry) ↔
      ∀ r ∈ (CheckReport.ofSettings settings c').1, r.failed = false := by
  have herror : ∀ e, ofSettings settings c = .error e ↔
      (CheckReport.ofSettings settings c').1.findSome? CheckReport.fault? = some e :=
    fun e ↦ ofSettings_eq_error_iff h h'
  simp only [← CheckReport.fault?_eq_none_iff, ← List.findSome?_eq_none_iff]
  cases hload : ofSettings settings c with
  | ok registry =>
    refine ⟨fun _ ↦ Option.eq_none_iff_forall_ne_some.mpr fun e he ↦ ?_, fun _ ↦ ⟨registry, rfl⟩⟩
    rw [(herror e).mpr he] at hload
    cases hload
  | error e =>
    rw [(herror e).mp hload]
    exact ⟨nofun, nofun⟩

/-- A loaded registry has, under the name of a query, what the cache answers for its text. -/
theorem get?_eq_some_iff (h : HasServed units past c) {registry : Registry}
    (hload : ofSettings settings c = .ok registry) {name : String} {k : KeptFilter} :
    registry.get? name = some k ↔ ∃ source, settings.filters.get? name = some source ∧
      ((CheckReport.ofSettings settings c).2.getOrCompile source).1 = .ok k := by
  rw [ofSettings, ofEntries_eq] at hload
  split at hload
  · cases hload
  · cases hload
    let loaded : Dictionary KeptFilter :=
      ⟨_, CheckReport.pairwise_kept (CheckReport.pairwise_ofSettings h settings)⟩
    have hloaded : Dictionary.ofList loaded.entries = loaded :=
      Dictionary.ofList_of_perm (List.Perm.refl _)
    calc (Dictionary.ofList loaded.entries).get? name = some k
      _ ↔ (name, k) ∈ loaded.entries := by rw [hloaded, Dictionary.mem_entries_iff]
      _ ↔ ⟨name, .ok k⟩ ∈ (CheckReport.ofSettings settings c).1 := CheckReport.mem_kept_iff
      _ ↔ _ := CheckReport.mem_ofSettings_iff h

theorem isSome_get? (h : HasServed units past c) {registry : Registry}
    (hload : ofSettings settings c = .ok registry) (name : String) :
    (registry.get? name).isSome = (settings.filters.get? name).isSome := by
  rw [Bool.eq_iff_iff, Option.isSome_iff_exists, Option.isSome_iff_exists]
  constructor
  · rintro ⟨k, hk⟩
    obtain ⟨source, hsource, -⟩ := (get?_eq_some_iff h hload).mp hk
    exact ⟨source, hsource⟩
  · rintro ⟨source, hsource⟩
    cases hanswer : ((CheckReport.ofSettings settings c).2.getOrCompile source).1 with
    | ok k => exact ⟨k, (get?_eq_some_iff h hload).mpr ⟨source, hsource, hanswer⟩⟩
    | error e =>
      have hreport : ⟨name, .error e⟩ ∈ (CheckReport.ofSettings settings c).1 :=
        (CheckReport.mem_ofSettings_iff h).mpr ⟨source, hsource, hanswer⟩
      cases (exists_ofSettings_eq_ok_iff h h).mp ⟨registry, hload⟩ _ hreport

/-- The cache after checking has also served the texts of the settings. -/
theorem hasServed_ofSettings (h : HasServed units past c) (settings : Settings) :
    HasServed units (past ++ c.history (settings.filters.entries.map (·.2)))
      (CheckReport.ofSettings settings c).2 := by
  rw [CheckReport.ofSettings, CheckReport.snd_ofEntries]
  exact h.after _

theorem ofSource_of_get? (h : HasServed units past c) {registry : Registry}
    (hload : ofSettings settings c = .ok registry) {name : String} {k : KeptFilter}
    (hk : registry.get? name = some k) : ∃ source,
      settings.filters.get? name = some source ∧ Filter.ofSource units source = .ok k.filter := by
  obtain ⟨source, hsource, hanswer⟩ := (get?_eq_some_iff h hload).mp hk
  refine ⟨source, hsource, ?_⟩
  rw [← (hasServed_ofSettings h settings).map_filter_getOrCompile, hanswer]
  rfl

/-- Two names share one filter exactly if their texts are the same. -/
theorem serial_eq_iff (h : HasServed units past c) {registry : Registry}
    (hload : ofSettings settings c = .ok registry) {name name' : String} {k k' : KeptFilter}
    (hk : registry.get? name = some k) (hk' : registry.get? name' = some k') :
    (k.serial = k'.serial ↔ settings.filters.get? name = settings.filters.get? name') ∧
      (settings.filters.get? name = settings.filters.get? name' → k = k') := by
  obtain ⟨source, hsource, hanswer⟩ := (get?_eq_some_iff h hload).mp hk
  obtain ⟨source', hsource', hanswer'⟩ := (get?_eq_some_iff h hload).mp hk'
  have hasked : ∀ {name source}, settings.filters.get? name = some source →
      source ∈ (past ++ c.history (settings.filters.entries.map (·.2))).map (·.source) := by
    intro name source hsource
    rw [List.map_append, map_source_history]
    exact List.mem_append_right _ (List.mem_map_of_mem (Dictionary.mem_entries_iff.mpr hsource))
  rw [hsource, hsource', Option.some_inj]
  exact (hasServed_ofSettings h settings).serial_eq_iff_of_getOrCompile (hasked hsource)
    (hasked hsource') hanswer hanswer'

end Registry

/-! ## Checking and loading -/

/-- The texts of the named queries of settings that compile. -/
def Settings.compilingTexts (s : Settings) : Finset String :=
  (s.filters.entries.map (·.2)).toFinset.filter fun source ↦
    (Filter.ofSource s.unitTable source).isOk = true

namespace Program

theorem exitCode_checkSettings_ne_zero_iff {settings : Settings} :
    (checkSettings settings).exitCode ≠ 0 ↔
      ∃ r ∈ (CheckReport.ofSettings settings (.new settings.unitTable)).1, r.failed = true := by
  rw [← List.length_filter_pos_iff, Outcome.exitCode, checkSettings]
  dsimp only
  split <;> simp_all [Nat.pos_iff_ne_zero]

/-- What checking a file comes to is decided by the settings in it. -/
theorem check_of_settingsOf {d : Directory} {config : String} {settings : Settings}
    (h : ((settingsOf Directory.access (some config)).run d).1 = .ok settings) :
    ((check Directory.access config).run d).1 = checkSettings settings := by
  rw [check, StateT.run_bind]
  cases hrun : (settingsOf Directory.access (some config)).run d with
  | mk loaded d' =>
    rw [hrun] at h
    cases h
    rfl

end Program

namespace Registry

open FilterCache

theorem size_ofSettings (settings : Settings) :
    (CheckReport.ofSettings settings (.new settings.unitTable)).2.size =
      settings.compilingTexts.card := by
  let texts := settings.filters.entries.map (·.2)
  have hserved := (HasServed.new settings.unitTable).after texts
  rw [CheckReport.ofSettings, CheckReport.snd_ofEntries, hserved.size_eq]
  congr 1
  ext source
  rw [hserved.mem_succeeded_iff, List.nil_append, map_source_history, Settings.compilingTexts,
    Finset.mem_filter, List.mem_toFinset]

/-- **Checking settings and loading them agree.** Queries are compiled with the standard units, over
which those of the settings take precedence. Checking from a fresh cache reports on each named query
once, in the order of the bytes of the names, whether its text compiles, and leaves as many filters
in the cache as there are different texts that do. Whatever a cache was asked before, loading
through it succeeds exactly if no report is a fault, and otherwise fails with the first one under
its name. A loaded registry has a filter under just the names of the settings, compiled from the
text there, and it is one and the same filter for two names exactly if their texts are the same. The
command that checks a file of these settings fails exactly if some report is a fault. -/
theorem check_and_load (settings : Settings) :
    let units := settings.unitTable
    let fresh := FilterCache.new units
    let reports := (CheckReport.ofSettings settings fresh).1
    (∀ suffix, units.get? suffix =
      (settings.units.get? suffix).or (UnitTable.standard.get? suffix)) ∧
    (reports.map fun r ↦ (r.name, r.result.map (·.filter))) =
      settings.filters.entries.map (fun e ↦ (e.1, Filter.ofSource units e.2)) ∧
    reports.Pairwise (fun r s ↦ Text.bytes r.name < Text.bytes s.name) ∧
    (CheckReport.ofSettings settings fresh).2.size = settings.compilingTexts.card ∧
    (∀ earlier, let cache := fresh.after earlier
      ((∃ registry, ofSettings settings cache = .ok registry) ↔ ∀ r ∈ reports, r.failed = false) ∧
      (∀ e, ofSettings settings cache = .error e ↔ ∃ before r later,
        reports = before ++ r :: later ∧ (∀ q ∈ before, q.failed = false) ∧
        r.name = e.name ∧ r.result = .error e.error) ∧
      ∀ registry, ofSettings settings cache = .ok registry →
        (∀ name, (registry.get? name).isSome = (settings.filters.get? name).isSome) ∧
        (∀ name k, registry.get? name = some k → ∃ source,
          settings.filters.get? name = some source ∧ Filter.ofSource units source = .ok k.filter) ∧
        ∀ name name' k k', registry.get? name = some k → registry.get? name' = some k' →
          (k.serial = k'.serial ↔ settings.filters.get? name = settings.filters.get? name') ∧
          (settings.filters.get? name = settings.filters.get? name' → k = k')) ∧
    ∀ (d : Directory) (config : String),
      ((Program.settingsOf Directory.access (some config)).run d).1 = .ok settings →
      (((Program.check Directory.access config).run d).1.exitCode ≠ 0 ↔
        ∃ r ∈ reports, r.failed = true) := by
  intro units fresh reports
  have hfresh : HasServed units [] fresh := HasServed.new units
  refine ⟨fun suffix ↦ Dictionary.get?_merge _ _ suffix,
    CheckReport.map_verdict_ofEntries hfresh _, ?_, ?_, fun earlier ↦ ?_, fun d config hload ↦ ?_⟩
  · exact (CheckReport.pairwise_ofSettings hfresh settings).imp Text.bytes_lt_bytes
  · exact size_ofSettings settings
  · intro cache
    have hcache := hfresh.after earlier
    refine ⟨exists_ofSettings_eq_ok_iff hcache hfresh, fun e ↦ ?_, fun registry hload ↦ ?_⟩
    · rw [ofSettings_eq_error_iff hcache hfresh, List.findSome?_eq_some_iff]
      constructor
      · rintro ⟨before, r, later, hreports, hfault, hbefore⟩
        exact ⟨before, r, later, hreports,
          fun q hq ↦ CheckReport.fault?_eq_none_iff.mp (hbefore q hq),
          CheckReport.fault?_eq_some_iff.mp hfault⟩
      · rintro ⟨before, r, later, hreports, hbefore, hfault⟩
        exact ⟨before, r, later, hreports, CheckReport.fault?_eq_some_iff.mpr hfault,
          fun q hq ↦ CheckReport.fault?_eq_none_iff.mpr (hbefore q hq)⟩
    · exact ⟨isSome_get? hcache hload, fun name k ↦ ofSource_of_get? hcache hload,
        fun name name' k k' ↦ serial_eq_iff hcache hload⟩
  · rw [Program.check_of_settingsOf hload]
    exact Program.exitCode_checkSettings_ne_zero_iff

/-- A file whose settings can be loaded, with one text under two names and a unit of another
dimension than the standard one, and a file with two faulty queries, of which the one whose name has
the smaller bytes is the first. -/
theorem check_and_load_of_files :
    let d : Directory := .ofFiles <| .ofList
      [("sound.json", "\x7b\"units\":\x7b\"mph\":[\"length\",2]\x7d,\"filters\":" ++
        "\x7b\"b\":\"ways\",\"a\":\"nodes\",\"c\":\"nodes\"\x7d\x7d"),
      ("faulty.json", "\x7b\"filters\":" ++
        "\x7b\"a\":\"nodes with (\",\"c\":\"nodes\",\"B\":\"nodes with )\"\x7d\x7d")]
    let load := fun name ↦ ((Program.settingsOf Directory.access (some name)).run d).1
    let check := fun name ↦ ((Program.check Directory.access name).run d).1
    (∃ settings registry k k', load "sound.json" = .ok settings ∧
      ofSettings settings (.new settings.unitTable) = .ok registry ∧
      (settings.unitTable.get? "mph").map (·.dimension) = some .length ∧
      registry.get? "a" = some k ∧ registry.get? "b" = some k' ∧ registry.get? "c" = some k ∧
      k.serial ≠ k'.serial ∧ (check "sound.json").exitCode = 0) ∧
    ∃ settings e, load "faulty.json" = .ok settings ∧
      ofSettings settings (.new settings.unitTable) = .error ⟨"B", e⟩ ∧
      (check "faulty.json").exitCode ≠ 0 := by
  intro d load check
  constructor
  · obtain ⟨settings, hload⟩ : ∃ settings, load "sound.json" = .ok settings :=
      exists_eq_ok_of_isOk (by decide +kernel)
    have hfilters : (load "sound.json").toOption.map (·.filters) =
        some (.ofList [("a", "nodes"), ("b", "ways"), ("c", "nodes")]) := by decide +kernel
    have hunits : (load "sound.json").toOption.bind
        (fun s ↦ (s.units.get? "mph").map (·.dimension)) = some .length := by decide +kernel
    have hregistry : (load "sound.json").toOption.map
        (fun s ↦ (ofSettings s (.new s.unitTable)).isOk) = some true := by decide +kernel
    rw [hload] at hfilters hunits hregistry
    obtain ⟨registry, hregistry⟩ := exists_eq_ok_of_isOk (Option.some.inj hregistry)
    have hfilters : settings.filters = _ := Option.some.inj hfilters
    obtain ⟨hmerged, -, -, -, hfrom, hcommand⟩ := check_and_load settings
    obtain ⟨hok, -, hloaded⟩ := hfrom []
    obtain ⟨hsome, -, hsame⟩ := hloaded registry hregistry
    rw [hfilters] at hsome hsame
    obtain ⟨k, hk⟩ := Option.isSome_iff_exists.mp (hsome "a")
    obtain ⟨k', hk'⟩ := Option.isSome_iff_exists.mp (hsome "b")
    obtain ⟨k'', hk''⟩ := Option.isSome_iff_exists.mp (hsome "c")
    obtain rfl : k = k'' := (hsame "a" "c" k k'' hk hk'').2 (by decide +kernel)
    refine ⟨settings, registry, k, k', hload, hregistry, ?_, hk, hk', hk'', ?_, ?_⟩
    · obtain ⟨u, hu, hdimension⟩ := Option.map_eq_some_iff.mp hunits
      rw [hmerged, hu, ← hdimension]
      rfl
    · rw [Ne, (hsame "a" "b" k k' hk hk').1]
      decide +kernel
    · by_contra hfailure
      obtain ⟨r, hr, hfailed⟩ := (hcommand d "sound.json" hload).mp hfailure
      rw [hok.mp ⟨registry, hregistry⟩ r hr] at hfailed
      cases hfailed
  · obtain ⟨settings, hload⟩ : ∃ settings, load "faulty.json" = .ok settings :=
      exists_eq_ok_of_isOk (by decide +kernel)
    have hfirst : (load "faulty.json").toOption.map (fun s ↦
        ((ofSettings s (.new s.unitTable)).mapError (·.name)).map (·.names)) =
          some (.error "B") := by decide +kernel
    rw [hload] at hfirst
    have hfirst : ((ofSettings settings (.new settings.unitTable)).mapError (·.name)).map
        (·.names) = .error "B" := Option.some.inj hfirst
    obtain ⟨-, -, -, -, hfrom, hcommand⟩ := check_and_load settings
    obtain ⟨-, hfault, -⟩ := hfrom []
    cases hregistry : ofSettings settings (.new settings.unitTable) with
    | ok registry =>
      rw [hregistry] at hfirst
      cases hfirst
    | error e =>
      rw [hregistry] at hfirst
      obtain ⟨name, fault⟩ := e
      obtain rfl : name = "B" := Except.error.inj hfirst
      obtain ⟨before, r, later, hreports, -, -, hresult⟩ := (hfault _).mp hregistry
      refine ⟨settings, fault, hload, hregistry, (hcommand d "faulty.json" hload).mpr ⟨r, ?_, ?_⟩⟩
      · rw [hreports]
        exact List.mem_append_right _ List.mem_cons_self
      · rw [CheckReport.failed, hresult]
        rfl

end Registry

end TagQuery
