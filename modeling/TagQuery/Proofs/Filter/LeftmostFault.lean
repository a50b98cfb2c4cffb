import TagQuery.Proofs.Filter.Compilation
import TagQuery.Proofs.Query.Derivation

/-!
# The fault that is reported

A text may have many faults, and one of them is reported. Which one is settled in stages: the tokens
come before the grammar, and the grammar before the conditions. Among the conditions it is the one
furthest to the left, and within a condition the part furthest to the left (`leftmost_fault`).

## Parts

Most conditions have nothing that could be wrong. The others have *parts* to be compiled
(`Condition.parts`): the patterns for keys, which are one part because they are read as one
expression, every single pattern for values, and the literal of a comparison or of an age. So what
is reported of a condition is the first fault of its parts, as what is reported of a query is the
first fault of its conditions.
-/

namespace TagQuery

namespace Query

/-- The conditions of a query, from left to right. -/
def leaves (q : Query) : List Condition := (q.condition.map (·.leaves)).getD []

/-- What may be wrong with a condition. -/
inductive Condition.Part where
  /-- The patterns for keys. -/
  | keys (texts : List String)
  /-- One of the patterns for values. -/
  | value (text : String)
  /-- A date, or a number with or without a unit. -/
  | comparand (literal : String)
  | date (literal : String)

/-- Whether a part can be compiled; what it is compiled to is left out. -/
def Condition.Part.check (units : UnitTable) : Part → Except CompileError Unit
  | keys texts => (Predicate.keys texts).map fun _ ↦ ()
  | value text => (Predicate.pattern text).map fun _ ↦ ()
  | comparand literal =>
    if DateLiteral.looksLikeDate literal then
      ((DateLiteral.parse literal).map fun _ ↦ ()).mapError .literal
    else ((units.parseLiteral literal).map fun _ ↦ ()).mapError .literal
  | date literal => ((DateLiteral.parse literal).map fun _ ↦ ()).mapError .literal

/-- The parts of a condition, from left to right. -/
def Condition.parts : Condition → List Part
  | matchesAny _ texts | matchesNone _ texts => texts.map .value
  | hasKeyLike texts | lacksKeyLike texts => [.keys texts]
  | hasTagLike keyTexts texts => .keys keyTexts :: texts.map .value
  | compares _ _ literal => [.comparand literal]
  | aged _ literal => [.date literal]
  | hasKey _ | lacksKey _ | equals _ _ | notEquals _ _ => []

end Query

open Query

/-! ## Conditions -/

theorem mapError_map_eq_error_iff {ε ε' α β γ : Type} {x : Except ε α} {f : α → β} {g : α → γ}
    {h : ε → ε'} {fault : ε'} :
    (x.map f).mapError h = .error fault ↔ (x.map g).mapError h = .error fault := by
  simp only [mapError_eq_error_iff, map_eq_error_iff]

namespace Predicate

variable {units : UnitTable} {texts : List String} {fault : CompileError}

/-- The patterns for values are read one by one. -/
theorem patterns_eq_error_iff :
    patterns texts = .error fault ↔
      FirstFault (Condition.Part.check units) (texts.map .value) fault := by
  induction texts with
  | nil => exact ⟨nofun, fun h ↦ absurd h not_firstFault_nil⟩
  | cons text texts ih =>
    have hcheck : Condition.Part.check units (.value text) = (pattern text).map fun _ ↦ () := rfl
    rw [patterns, List.map_cons, firstFault_cons_iff, hcheck, ← ih]
    cases pattern text with
    | error fault' => simp [Except.map]
    | ok p =>
      dsimp only
      rw [map_eq_error_iff]
      simp [Except.map]

theorem keys_eq_error_iff :
    keys texts = .error fault ↔
      FirstFault (Condition.Part.check units) [.keys texts] fault := by
  rw [firstFault_singleton_iff]
  exact map_eq_error_iff.symm

theorem keysAndPatterns_eq_error_iff {keyTexts : List String} :
    ofCondition units (.hasTagLike keyTexts texts) = .error fault ↔
      FirstFault (Condition.Part.check units) (.keys keyTexts :: texts.map .value) fault := by
  have hcheck : Condition.Part.check units (.keys keyTexts) = (keys keyTexts).map fun _ ↦ () := rfl
  rw [firstFault_cons_iff, ← patterns_eq_error_iff, hcheck, ofCondition, bind_eq_error_iff,
    map_eq_error_iff]
  refine or_congr_right ?_
  -- what follows the keys fails just if the values do, whatever the keys are compiled to
  have hvalues : ∀ r, (patterns texts >>= fun ps ↦ pure (hasTagLike r ps)) = .error fault ↔
      patterns texts = .error fault := by
    intro r
    rw [bind_eq_error_iff]
    exact or_iff_left fun ⟨_, _, h⟩ ↦ nomatch h
  simp only [hvalues, map_eq_ok_iff, exists_and_right]
  simp

/-- What is reported of a condition is the first fault of its parts. -/
theorem ofCondition_eq_error_iff (c : Condition) :
    ofCondition units c = .error fault ↔
      FirstFault (Condition.Part.check units) c.parts fault := by
  cases c with
  | hasKey | lacksKey | equals | notEquals =>
    exact ⟨nofun, fun h ↦ absurd h not_firstFault_nil⟩
  | matchesAny key texts => exact map_eq_error_iff.trans patterns_eq_error_iff
  | matchesNone key texts => exact map_eq_error_iff.trans patterns_eq_error_iff
  | hasKeyLike texts => exact map_eq_error_iff.trans keys_eq_error_iff
  | lacksKeyLike texts => exact map_eq_error_iff.trans keys_eq_error_iff
  | hasTagLike keyTexts texts => exact keysAndPatterns_eq_error_iff
  | compares key op literal =>
    rw [Condition.parts, firstFault_singleton_iff, Condition.Part.check, ofCondition, comparison]
    split
    · exact mapError_map_eq_error_iff
    · exact mapError_map_eq_error_iff
  | aged age literal =>
    rw [Condition.parts, firstFault_singleton_iff]
    exact mapError_map_eq_error_iff

end Predicate

/-! ## Queries -/

namespace Filter

variable {units : UnitTable} {source : String} {q : Query} {f : Filter} {fault : CompileError}

theorem exists_ofQuery_iff :
    (∃ f, ofQuery units source q = .ok f) ↔
      ∀ c ∈ q.leaves, ∃ p, Predicate.ofCondition units c = .ok p := by
  obtain ⟨kinds, condition⟩ := q
  cases condition with
  | none =>
    refine ⟨fun _ ↦ List.forall_mem_nil _, fun _ ↦ ?_⟩
    exact ⟨_, ofQuery_none_eq_ok_iff.mpr rfl⟩
  | some expr =>
    rw [show (⟨kinds, some expr⟩ : Query).leaves = expr.leaves from rfl,
      ← Expr.exists_traverse_iff (Predicate.ofCondition units)]
    simp only [ofQuery_some_eq_ok_iff]
    exact ⟨fun ⟨_, c, hc, _⟩ ↦ ⟨c, hc⟩, fun ⟨c, hc⟩ ↦ ⟨_, c, hc, rfl⟩⟩

/-- A filter has the kinds of its query and the form of its condition, and the compiled conditions
where the conditions were. -/
theorem matches_of_ofQuery (h : ofQuery units source q = .ok f) :
    f.kinds = q.kinds ∧ f.condition.map (·.shape) = q.condition.map (·.shape) ∧
      List.Forall₂ (fun c p ↦ Predicate.ofCondition units c = .ok p) q.leaves f.leaves := by
  obtain ⟨kinds, condition⟩ := q
  cases condition with
  | none =>
    rw [ofQuery_none_eq_ok_iff.mp h]
    exact ⟨rfl, rfl, .nil⟩
  | some expr =>
    obtain ⟨c, hc, rfl⟩ := ofQuery_some_eq_ok_iff.mp h
    refine ⟨rfl, ?_, Expr.forall₂_leaves_of_traverse expr hc⟩
    rw [Option.map_some, Option.map_some, Expr.shape_of_traverse expr hc]

theorem ofQuery_eq_error_iff :
    ofQuery units source q = .error fault ↔
      FirstFault (Predicate.ofCondition units) q.leaves fault := by
  rw [ofQuery, map_eq_error_iff]
  obtain ⟨kinds, condition⟩ := q
  cases condition with
  | none =>
    refine ⟨fun h ↦ ?_, fun h ↦ absurd h not_firstFault_nil⟩
    cases h
  | some expr =>
    rw [compileCondition, map_eq_error_iff, Expr.traverse_eq_error_iff]
    rfl

/-! ## Texts -/

theorem ofSource_of_parse_eq_error {e : ParseError} (h : parse source = .error e) :
    ofSource units source = .error (.parse e) := by
  rw [ofSource, h]

theorem ofSource_of_parse_eq_ok (h : parse source = .ok q) :
    ofSource units source = (ofQuery units source q).mapError .compile := by
  rw [ofSource, h]

theorem ofSource_eq_error_parse_iff {e : ParseError} :
    ofSource units source = .error (.parse e) ↔ parse source = .error e := by
  refine ⟨fun h ↦ ?_, ofSource_of_parse_eq_error⟩
  cases hparse : parse source with
  | error e' =>
    rw [ofSource_of_parse_eq_error hparse] at h
    cases h
    rfl
  | ok q =>
    rw [ofSource_of_parse_eq_ok hparse, mapError_eq_error_iff] at h
    obtain ⟨fault, -, hfault⟩ := h
    cases hfault

theorem ofSource_eq_error_compile_iff :
    ofSource units source = .error (.compile fault) ↔
      ∃ q, parse source = .ok q ∧ ofQuery units source q = .error fault := by
  cases hparse : parse source with
  | error e =>
    rw [ofSource_of_parse_eq_error hparse]
    exact ⟨nofun, nofun⟩
  | ok q =>
    rw [ofSource_of_parse_eq_ok hparse, mapError_eq_error_iff]
    simp

end Filter

namespace Query

variable {source : String}

theorem parse_eq_error_lexical_iff {e : LexError} :
    parse source = .error (.lexical e) ↔ tokens source = .error e := by
  rw [parse]
  cases tokens source with
  | error e' => simp
  | ok placed =>
    dsimp only
    rw [mapError_eq_error_iff]
    constructor
    · rintro ⟨_, -, he⟩
      cases he
    · intro h
      cases h

/-- A text is at fault for its grammar exactly if it has tokens, and the grammar derives no query
from them. -/
theorem exists_parse_eq_error_syntactic_iff :
    (∃ e, parse source = .error (.syntactic e)) ↔
      ∃ placed, tokens source = .ok placed ∧
        ∀ d : Grammar.Derivation, d.tokens ≠ placed.map (·.token) := by
  rw [parse]
  cases tokens source with
  | error e => simp
  | ok placed =>
    dsimp only
    simp only [mapError_eq_error_iff, Except.ok.injEq, exists_eq_left']
    constructor
    · rintro ⟨_, fault, hfault, -⟩ d hd
      rw [← hd, ofTokens_tokens] at hfault
      cases hfault
    · intro h
      cases hquery : ofTokens (placed.map (·.token)) with
      | error fault => exact ⟨_, fault, rfl, rfl⟩
      | ok q =>
        obtain ⟨d, hd, -⟩ := exists_of_ofTokens hquery
        exact absurd hd (h d)

end Query

/-! ## The stages -/

namespace Filter

/-- **The leftmost fault is reported, and nothing else goes wrong.**

A query compiles exactly if each of its conditions does. The filter then has the kinds of the query
and the form of its condition, with the compiled conditions in the place of the conditions, and what
is reported otherwise is the fault of the first condition that has one. Of a condition it is the
fault of the first part that has one, so that the keys come before the values.

Of a text, the fault lies in its tokens if it cannot be cut into tokens. Else it lies in its grammar
if the grammar derives no query from the tokens, and else in the first condition with a fault. -/
theorem leftmost_fault (units : UnitTable) :
    (∀ (source : String) (q : Query),
      ((∃ f, ofQuery units source q = .ok f) ↔
        ∀ c ∈ q.leaves, ∃ p, Predicate.ofCondition units c = .ok p) ∧
      (∀ f, ofQuery units source q = .ok f →
        f.kinds = q.kinds ∧ f.condition.map (·.shape) = q.condition.map (·.shape) ∧
          List.Forall₂ (fun c p ↦ Predicate.ofCondition units c = .ok p) q.leaves f.leaves) ∧
      ∀ fault, ofQuery units source q = .error fault ↔
        FirstFault (Predicate.ofCondition units) q.leaves fault) ∧
    (∀ c fault, Predicate.ofCondition units c = .error fault ↔
      FirstFault (Condition.Part.check units) c.parts fault) ∧
    ∀ source : String,
      (∀ e, ofSource units source = .error (.parse (.lexical e)) ↔ tokens source = .error e) ∧
      ((∃ e, ofSource units source = .error (.parse (.syntactic e))) ↔
        ∃ placed, tokens source = .ok placed ∧
          ∀ d : Grammar.Derivation, d.tokens ≠ placed.map (·.token)) ∧
      ∀ fault, ofSource units source = .error (.compile fault) ↔
        ∃ q, parse source = .ok q ∧ FirstFault (Predicate.ofCondition units) q.leaves fault := by
  refine ⟨fun source q ↦ ⟨exists_ofQuery_iff, ?_, ?_⟩, ?_, fun source ↦ ⟨?_, ?_, ?_⟩⟩
  · intro f hf
    exact matches_of_ofQuery hf
  · intro fault
    exact ofQuery_eq_error_iff
  · intro c fault
    exact Predicate.ofCondition_eq_error_iff c
  · intro e
    rw [ofSource_eq_error_parse_iff, parse_eq_error_lexical_iff]
  · simp only [ofSource_eq_error_parse_iff, exists_parse_eq_error_syntactic_iff]
  · intro fault
    simp only [ofSource_eq_error_compile_iff, ofQuery_eq_error_iff]

/-- Of three faults, in two patterns for values and in the number further to the right, the first is
reported, although it stands below a negation and another pattern precedes it. -/
theorem leftmost_fault_under_not :
    let q : Query := ⟨.ofList [.way], some <| .all [
      .any [.leaf (.lacksKey "a"), .not (.leaf (.hasTagLike ["b"] ["*", "[", "("]))],
      .leaf (.compares "c" .less "fast")]⟩
    ofQuery .standard "" q = .error (.invalidRegex "[") := by
  intro q
  obtain ⟨hqueries, hconditions, -⟩ := leftmost_fault .standard
  refine ((hqueries "" q).2.2 _).mpr ⟨[.lacksKey "a"], _, _, rfl, ?_, (hconditions _ _).mpr ?_⟩
  · intro c hc
    rw [List.mem_singleton.mp hc]
    exact ⟨_, rfl⟩
  · refine ⟨[.keys ["b"], .value "*"], .value "[", _, rfl, ?_, by decide +kernel⟩
    intro part hpart
    simp only [List.mem_cons, List.not_mem_nil, or_false] at hpart
    rcases hpart with rfl | rfl
    · exact ⟨(), by decide +kernel⟩
    · exact ⟨(), rfl⟩

end Filter

end TagQuery
