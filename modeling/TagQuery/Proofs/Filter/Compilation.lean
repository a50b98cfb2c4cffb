import TagQuery.Filter.Basic
import TagQuery.Proofs.Query.Leaves

/-!
# Compiling a text

A text is compiled in two steps: the query is read, and then its conditions are compiled where they
stand. So a filter has the text and the units that it was compiled from, and the kinds of the query
(`ofSource_eq_ok_iff`); its tree is that of the query, and asking the filter is asking the query's
conditions for the answers of their predicates (`evaluate_of_compiles`).
-/

namespace TagQuery

open Query

/-- The answer of a condition on an element: that of its predicate, if it compiles. -/
def Query.Condition.answer {ε : Type} [ElementView ε] (units : UnitTable) (today : Date) (e : ε)
    (c : Condition) : Traced Bool :=
  match Predicate.ofCondition units c with
  | .ok p => p.evaluate units today e
  | .error _ => .pure false

theorem Query.Condition.answer_eq {ε : Type} [ElementView ε] {units : UnitTable} {c : Condition}
    {p : Predicate} (h : Predicate.ofCondition units c = .ok p) (today : Date) (e : ε) :
    c.answer units today e = p.evaluate units today e := by
  rw [answer, h]

/-- Asking compiled conditions is asking the conditions. -/
theorem Query.Expr.evaluate_of_compiles {ε : Type} [ElementView ε] {units : UnitTable}
    {expr : Expr Condition} {c : Expr Predicate}
    (h : expr.traverse (Predicate.ofCondition units) = .ok c) (today : Date) (e : ε) :
    c.evaluate (Predicate.evaluate units today e) = expr.evaluate (·.answer units today e) :=
  evaluate_of_traverse (fun _ _ hp ↦ Condition.answer_eq hp today e) expr h

namespace Filter

variable {units : UnitTable} {source : String} {f : Filter}

theorem ofSource_eq_ok_iff :
    ofSource units source = .ok f ↔
      ∃ q, parse source = .ok q ∧ ofQuery units source q = .ok f := by
  rw [ofSource]
  cases parse source with
  | error e => exact ⟨nofun, nofun⟩
  | ok q =>
    change (ofQuery units source q).mapError _ = _ ↔ _
    rw [mapError_eq_ok_iff]
    exact ⟨fun hf ↦ ⟨q, rfl, hf⟩, fun ⟨_, hq, hf⟩ ↦ Except.ok.inj hq ▸ hf⟩

theorem ofQuery_none_eq_ok_iff {kinds : KindSet} :
    ofQuery units source ⟨kinds, none⟩ = .ok f ↔ f = ⟨source, kinds, none, units⟩ := by
  rw [ofQuery, compileCondition, map_eq_ok_iff]
  constructor
  · rintro ⟨_, ⟨⟩, rfl⟩
    rfl
  · rintro rfl
    exact ⟨none, rfl, rfl⟩

theorem ofQuery_some_eq_ok_iff {kinds : KindSet} {expr : Expr Condition} :
    ofQuery units source ⟨kinds, some expr⟩ = .ok f ↔
      ∃ c, expr.traverse (Predicate.ofCondition units) = .ok c ∧
        f = ⟨source, kinds, some c, units⟩ := by
  simp only [ofQuery, compileCondition, map_eq_ok_iff]
  constructor
  · rintro ⟨_, ⟨c, hc, rfl⟩, rfl⟩
    exact ⟨c, hc, rfl⟩
  · rintro ⟨c, hc, rfl⟩
    exact ⟨_, ⟨c, hc, rfl⟩, rfl⟩

/-- A filter has the text that it was compiled from. -/
theorem source_of_ofSource (h : ofSource units source = .ok f) : f.source = source := by
  obtain ⟨q, -, hf⟩ := ofSource_eq_ok_iff.mp h
  obtain ⟨_, -, rfl⟩ := map_eq_ok_iff.mp hf
  rfl

end Filter

end TagQuery
