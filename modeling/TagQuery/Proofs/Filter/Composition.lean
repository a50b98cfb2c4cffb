import TagQuery.Proofs.Filter.Compilation
import TagQuery.Proofs.Query.Derivation

/-!
# Composing filters by their texts

The text of a condition can be put into parentheses, negated and joined with others by writing
`not`, `and` and `or` between the texts. The filters of such texts exist if those of the parts do,
and decide as the words say.

## Texts that state a decision

A text *states* a decision on elements (`States`) if it is derivable as a disjunction whose
conditions compile and whose truth is that decision. It states it *as an operand* (`StatesOperand`)
if it is derivable as an operand, so that `not` and `and` do not take it apart. Each way to compose
texts is a lemma about these two notions: tokens are those of the parts, since the words in between
stand apart from them, and flattening a chain keeps its truth.

A filter with a text for its condition exists and decides something exactly if the text states that
decision (`decidesWith_iff_states`). This is the only place where filters are read.
-/

namespace TagQuery

open Query Query.Grammar

/-! ## Words between texts -/

/-- A text before a keyword and another text is the tokens before and after the keyword. -/
theorem Query.lexes_keyword_iff {cs tail : List Char} {ts us : List Token} (k : Keyword)
    (h : Lexes cs ts) :
    Lexes (cs ++ ' ' :: (k.spelling.toList ++ ' ' :: tail)) us ↔
      ∃ vs, us = ts ++ .keyword k :: vs ∧ Lexes tail vs := by
  have hk : Lexes k.spelling.toList [.keyword k] := lexes_spelling (t := .keyword k) trivial
  rw [h.append_iff (standsApart_space _)]
  constructor
  · rintro ⟨vs, rfl, hvs⟩
    rw [lexes_separator_cons rfl, hk.append_iff (standsApart_space _)] at hvs
    obtain ⟨ws, rfl, hws⟩ := hvs
    exact ⟨ws, rfl, (lexes_separator_cons rfl).mp hws⟩
  · rintro ⟨vs, rfl, hvs⟩
    refine ⟨.keyword k :: vs, rfl, ?_⟩
    rw [lexes_separator_cons rfl, hk.append_iff (standsApart_space _)]
    exact ⟨vs, rfl, .separator rfl hvs⟩

theorem Query.lexes_parens {cs : List Char} {ts : List Token} (h : Lexes cs ts) :
    Lexes ('(' :: (cs ++ [')'])) (.symbol .openParen :: (ts ++ [.symbol .closeParen])) := by
  have hclose : Lexes [')'] [.symbol .closeParen] := .token rfl .nil
  exact .token rfl (h.append (standsApart_closeParen []) hclose)

/-- With a list of kinds before `with`, a text is a query exactly if the rest is a condition. -/
theorem Query.parse_with_iff {T A : String} {kinds : KindSet} (hT : parse T = .ok ⟨kinds, none⟩)
    {q : Query} :
    parse (T ++ " with " ++ A) = .ok q ↔
      ∃ d : Disjunction, Lexes A.toList d.tokens ∧ q = ⟨kinds, some d.meaning⟩ := by
  obtain ⟨⟨ks, c⟩, hlexes, hmeaning⟩ := parse_eq_ok_iff_lexes.mp hT
  obtain ⟨hkinds, hcondition⟩ := Query.mk.inj hmeaning
  have hc : c = none := Option.map_eq_none_iff.mp hcondition
  rw [hc, Derivation.tokens, Derivation.clauseTokens, List.append_nil] at hlexes
  have hsource : (T ++ " with " ++ A).toList
      = T.toList ++ ' ' :: (Keyword.withClause.spelling.toList ++ ' ' :: A.toList) := by
    rw [String.toList_append, String.toList_append, List.append_assoc]
    rfl
  simp only [parse_eq_ok_iff_lexes, hsource, lexes_keyword_iff .withClause hlexes]
  constructor
  · rintro ⟨⟨ks', c'⟩, ⟨vs, hvs, hA⟩, rfl⟩
    obtain ⟨rfl, hclause⟩ := Derivation.kindTokens_unique hvs
      (Derivation.head?_clauseTokens_ne_comma c') (by simp)
    cases c' with
    | none => cases hclause
    | some d =>
      rw [← (List.cons.inj hclause).2] at hA
      exact ⟨d, hA, congrArg (Query.mk · (some d.meaning)) hkinds⟩
  · rintro ⟨d, hd, rfl⟩
    exact ⟨⟨ks, some d⟩, ⟨d.tokens, rfl, hd⟩, congrArg (Query.mk · (some d.meaning)) hkinds⟩

/-! ## What texts state -/

/-- The decision of a condition on an element: that of its predicate, if it compiles. -/
def Query.Condition.decides (units : UnitTable) (today : Date) (e : Element) (c : Condition) :
    Bool :=
  (c.answer units today e).value

/-- All conditions of an expression compile, and it decides the elements of some kinds as given. -/
structure Query.Expr.Decides (units : UnitTable) (kinds : KindSet) (expr : Expr Condition)
    (decision : Date → Element → Bool) : Prop where
  compiles : ∀ c ∈ expr.leaves, ∃ p, Predicate.ofCondition units c = .ok p
  holds : ∀ today e, kinds.contains e.kind = true →
    expr.holds (·.decides units today e) = decision today e

/-- The text of a condition states a decision. -/
def States (units : UnitTable) (kinds : KindSet) (text : List Char)
    (decision : Date → Element → Bool) : Prop :=
  ∃ d : Disjunction, Lexes text d.tokens ∧ d.meaning.Decides units kinds decision

/-- The text of a condition that is a single operand states a decision. -/
def StatesOperand (units : UnitTable) (kinds : KindSet) (text : List Char)
    (decision : Date → Element → Bool) : Prop :=
  ∃ o : Operand, Lexes text o.tokens ∧ o.meaning.Decides units kinds decision

section Rules

variable {units : UnitTable} {kinds : KindSet} {as bs : List Char} {a b : Date → Element → Bool}

theorem States.parens (h : States units kinds as a) :
    StatesOperand units kinds ('(' :: (as ++ [')'])) a := by
  obtain ⟨d, hlexes, hdecides⟩ := h
  exact ⟨.parens d, lexes_parens hlexes, hdecides⟩

theorem StatesOperand.not (h : StatesOperand units kinds as a) :
    StatesOperand units kinds (Keyword.not.spelling.toList ++ ' ' :: as)
      fun today e ↦ !a today e := by
  obtain ⟨o, hlexes, hcompiles, hholds⟩ := h
  have hnot : Lexes Keyword.not.spelling.toList [.keyword .not] :=
    lexes_spelling (t := .keyword .not) trivial
  refine ⟨.not o, hnot.append (standsApart_space as) (.separator rfl hlexes), hcompiles, ?_⟩
  intro today e he
  rw [Operand.meaning, Expr.holds, hholds today e he]

theorem StatesOperand.states (h : StatesOperand units kinds as a) : States units kinds as a := by
  obtain ⟨o, hlexes, hdecides⟩ := h
  refine ⟨.chain (.chain o []) [], ?_, hdecides⟩
  rw [Disjunction.tokens, orTokens, List.append_nil, Conjunction.tokens, andTokens, List.append_nil]
  exact hlexes

theorem StatesOperand.and (hA : StatesOperand units kinds as a)
    (hB : StatesOperand units kinds bs b) :
    States units kinds (as ++ ' ' :: (Keyword.and.spelling.toList ++ ' ' :: bs))
      fun today e ↦ a today e && b today e := by
  obtain ⟨o, ho, hocompiles, hoholds⟩ := hA
  obtain ⟨p, hp, hpcompiles, hpholds⟩ := hB
  refine ⟨.chain (.chain o [p]) [], ?_, ?_, fun today e he ↦ ?_⟩
  · rw [Disjunction.tokens, orTokens, List.append_nil, Conjunction.tokens, andTokens, andTokens,
      List.append_nil]
    exact (lexes_keyword_iff .and ho).mpr ⟨p.tokens, rfl, hp⟩
  · change ∀ c ∈ (o.meaning.allOf [p.meaning]).leaves, _
    rw [Expr.leaves_allOf, Expr.leavesOfList, Expr.leavesOfList, List.append_nil]
    exact List.forall_mem_append.mpr ⟨hocompiles, hpcompiles⟩
  · change (o.meaning.allOf [p.meaning]).holds _ = _
    rw [Expr.holds_allOf, Expr.allHold, Expr.allHold, Bool.and_true, hoholds today e he,
      hpholds today e he]

/-- A chain that follows another one goes on with it. -/
theorem States.or (hA : States units kinds as a) (hB : States units kinds bs b) :
    States units kinds (as ++ ' ' :: (Keyword.or.spelling.toList ++ ' ' :: bs))
      fun today e ↦ a today e || b today e := by
  obtain ⟨⟨c, cs⟩, hc, hcompiles, hholds⟩ := hA
  obtain ⟨⟨d, ds⟩, hd, hcompiles', hholds'⟩ := hB
  rw [Disjunction.meaning, Expr.leaves_anyOf] at hcompiles hcompiles'
  refine ⟨.chain c (cs ++ d :: ds), ?_, ?_, fun today e he ↦ ?_⟩
  · rw [Disjunction.tokens, orTokens_append, ← List.append_assoc c.tokens]
    exact (lexes_keyword_iff .or hc).mpr ⟨(Disjunction.chain d ds).tokens, rfl, hd⟩
  · rw [Disjunction.meaning, disjunctMeanings_append, Expr.leaves_anyOf, Expr.leavesOfList_append,
      ← List.append_assoc]
    exact List.forall_mem_append.mpr ⟨hcompiles, hcompiles'⟩
  · have hA := hholds today e he
    have hB := hholds' today e he
    rw [Disjunction.meaning, Expr.holds_anyOf] at hA hB
    rw [Disjunction.meaning, disjunctMeanings_append, Expr.holds_anyOf, Expr.anyHolds_append,
      ← Bool.or_assoc, hA, ← hB]
    rfl

end Rules

/-! ## Filters -/

/-- The text of a condition, after the text `T` for some kinds and `with`, is that of a filter for
these kinds that makes the given decision on their elements. -/
def DecidesWith (units : UnitTable) (kinds : KindSet) (T text : String)
    (decision : Date → Element → Bool) : Prop :=
  ∃ f, Filter.ofSource units (T ++ " with " ++ text) = .ok f ∧ f.kinds = kinds ∧
    ∀ today e, kinds.contains e.kind = true → f.accepts today e = decision today e

/-- A compiled condition is asked for the decision that the condition states. -/
theorem Filter.accepts_of_traverse {units : UnitTable} {source : String} {kinds : KindSet}
    {expr : Expr Condition} {c : Expr Predicate}
    (hc : expr.traverse (Predicate.ofCondition units) = .ok c) {today : Date} {e : Element}
    (he : kinds.contains e.kind = true) :
    accepts ⟨source, kinds, some c, units⟩ today e
      = expr.holds (·.decides units today e) := by
  have hexamine : examine ⟨source, kinds, some c, units⟩ today e
      = c.evaluate (Predicate.evaluate units today e) := if_pos he
  rw [accepts, hexamine, Expr.evaluate_of_compiles hc, Expr.value_evaluate]
  rfl

theorem decidesWith_iff_states {units : UnitTable} {kinds : KindSet} {T A : String}
    (hT : parse T = .ok ⟨kinds, none⟩) {decision : Date → Element → Bool} :
    DecidesWith units kinds T A decision ↔ States units kinds A.toList decision := by
  constructor
  · rintro ⟨f, hf, -, haccepts⟩
    obtain ⟨q, hq, hf⟩ := Filter.ofSource_eq_ok_iff.mp hf
    obtain ⟨d, hd, rfl⟩ := (parse_with_iff hT).mp hq
    obtain ⟨c, hc, rfl⟩ := Filter.ofQuery_some_eq_ok_iff.mp hf
    refine ⟨d, hd, (Expr.exists_traverse_iff _ _).mp ⟨c, hc⟩, fun today e he ↦ ?_⟩
    rw [← haccepts today e he, Filter.accepts_of_traverse hc he]
  · rintro ⟨d, hd, hcompiles, hholds⟩
    obtain ⟨c, hc⟩ := (Expr.exists_traverse_iff _ _).mpr hcompiles
    refine ⟨⟨T ++ " with " ++ A, kinds, some c, units⟩, ?_, rfl, fun today e he ↦ ?_⟩
    · rw [Filter.ofSource_eq_ok_iff]
      exact ⟨_, (parse_with_iff hT).mpr ⟨d, hd, rfl⟩,
        Filter.ofQuery_some_eq_ok_iff.mpr ⟨c, hc, rfl⟩⟩
    · rw [Filter.accepts_of_traverse hc he, hholds today e he]

theorem Filter.accepts_eq_false {f : Filter} {today : Date} {e : Element}
    (h : f.kinds.contains e.kind = false) : f.accepts today e = false := by
  have hexamine : f.examine today e = .pure false := if_neg (by simp [h])
  rw [accepts, hexamine]
  rfl

/-- After the text `T` for some kinds and `with`, two texts are those of filters that accept the
same elements on every day. -/
def AgreeWith (units : UnitTable) (T A B : String) : Prop :=
  ∃ f g, Filter.ofSource units (T ++ " with " ++ A) = .ok f ∧
    Filter.ofSource units (T ++ " with " ++ B) = .ok g ∧
    ∀ today e, f.accepts today e = g.accepts today e

/-- Texts that decide alike on the elements of the kinds agree, since all others are rejected. -/
theorem agreeWith_of_states {units : UnitTable} {kinds : KindSet} {T A B : String}
    (hT : parse T = .ok ⟨kinds, none⟩) {a b : Date → Element → Bool}
    (hA : States units kinds A.toList a) (hB : States units kinds B.toList b)
    (hab : ∀ today e, a today e = b today e) : AgreeWith units T A B := by
  obtain ⟨f, hf, hfkinds, hfaccepts⟩ := (decidesWith_iff_states hT).mpr hA
  obtain ⟨g, hg, hgkinds, hgaccepts⟩ := (decidesWith_iff_states hT).mpr hB
  refine ⟨f, g, hf, hg, fun today e ↦ ?_⟩
  cases he : kinds.contains e.kind with
  | true => rw [hfaccepts today e he, hgaccepts today e he, hab]
  | false =>
    rw [Filter.accepts_eq_false (hfkinds ▸ he), Filter.accepts_eq_false (hgkinds ▸ he)]

/-- **Texts compose as the words between them say.** With the text `T` for some kinds, and texts `A`
and `B` whose filters exist, the filters of the composed texts exist and decide by the connectives,
and the texts on the two sides of De Morgan's laws have filters that agree. -/
theorem accepts_compose {units : UnitTable} {kinds : KindSet} {T A B : String} {fA fB : Filter}
    (hT : parse T = .ok ⟨kinds, none⟩)
    (hA : Filter.ofSource units (T ++ " with " ++ A) = .ok fA)
    (hB : Filter.ofSource units (T ++ " with " ++ B) = .ok fB) :
    DecidesWith units kinds T ("(" ++ A ++ ") and (" ++ B ++ ")")
      (fun today e ↦ fA.accepts today e && fB.accepts today e) ∧
    DecidesWith units kinds T ("(" ++ A ++ ") or (" ++ B ++ ")")
      (fun today e ↦ fA.accepts today e || fB.accepts today e) ∧
    DecidesWith units kinds T (A ++ " or " ++ B)
      (fun today e ↦ fA.accepts today e || fB.accepts today e) ∧
    DecidesWith units kinds T ("not (" ++ A ++ ")") (fun today e ↦ !fA.accepts today e) ∧
    AgreeWith units T ("not ((" ++ A ++ ") and (" ++ B ++ "))")
      ("not (" ++ A ++ ") or not (" ++ B ++ ")") ∧
    AgreeWith units T ("not ((" ++ A ++ ") or (" ++ B ++ "))")
      ("not (" ++ A ++ ") and not (" ++ B ++ ")") := by
  have hkinds : ∀ {text : String} {f : Filter},
      Filter.ofSource units (T ++ " with " ++ text) = .ok f → f.kinds = kinds := by
    intro text f hf
    obtain ⟨q, hq, hf⟩ := Filter.ofSource_eq_ok_iff.mp hf
    obtain ⟨d, -, rfl⟩ := (parse_with_iff hT).mp hq
    obtain ⟨c, -, rfl⟩ := Filter.ofQuery_some_eq_ok_iff.mp hf
    rfl
  have ha : States units kinds A.toList fA.accepts :=
    (decidesWith_iff_states hT).mp ⟨fA, hA, hkinds hA, fun _ _ _ ↦ rfl⟩
  have hb : States units kinds B.toList fB.accepts :=
    (decidesWith_iff_states hT).mp ⟨fB, hB, hkinds hB, fun _ _ _ ↦ rfl⟩
  have hand := ha.parens.and hb.parens
  have hor := ha.parens.states.or hb.parens.states
  have hnotAnd := hand.parens.not.states
  have hnotOr := hor.parens.not.states
  have horNot := ha.parens.not.states.or hb.parens.not.states
  have handNot := ha.parens.not.and hb.parens.not
  simp only [decidesWith_iff_states hT]
  have hnotAnd_eq : ∀ today e, (!(fA.accepts today e && fB.accepts today e))
      = (!fA.accepts today e || !fB.accepts today e) := fun _ _ ↦ Bool.not_and _ _
  have hnotOr_eq : ∀ today e, (!(fA.accepts today e || fB.accepts today e))
      = (!fA.accepts today e && !fB.accepts today e) := fun _ _ ↦ Bool.not_or _ _
  refine ⟨?_, ?_, ?_, ?_, agreeWith_of_states hT ?_ ?_ hnotAnd_eq,
    agreeWith_of_states hT ?_ ?_ hnotOr_eq⟩
  · simpa [Keyword.spelling] using hand
  · simpa [Keyword.spelling] using hor
  · simpa [Keyword.spelling] using ha.or hb
  · simpa [Keyword.spelling] using ha.parens.not.states
  · simpa [Keyword.spelling] using hnotAnd
  · simpa [Keyword.spelling] using horNot
  · simpa [Keyword.spelling] using hnotOr
  · simpa [Keyword.spelling] using handNot

theorem accepts_compose_chains :
    ∃ fA fB,
      Filter.ofSource .standard ("nodes" ++ " with " ++ "shop or not name") = .ok fA ∧
      Filter.ofSource .standard ("nodes" ++ " with " ++ "older and \"a b\" = c") = .ok fB ∧
      DecidesWith .standard ⟨true, false, false⟩ "nodes"
        ("shop or not name" ++ " or " ++ "older and \"a b\" = c")
        (fun today e ↦ fA.accepts today e || fB.accepts today e) := by
  have hT : parse "nodes" = .ok ⟨⟨true, false, false⟩, none⟩ := by
    have hlexes : Lexes (spelled [.keyword (.kind .node)]) [.keyword (.kind .node)] :=
      lexes_spelled (by decide +kernel)
    exact parse_eq_ok_iff_lexes.mpr ⟨⟨⟨.node, []⟩, none⟩, hlexes, rfl⟩
  have hstates : ∀ (text : String) (d : Disjunction), spelled d.tokens = text.toList →
      (∀ t ∈ d.tokens, t.IsWritable) →
      (∀ c ∈ d.meaning.leaves, ∃ p, Predicate.ofCondition .standard c = .ok p) →
      ∃ f, Filter.ofSource .standard ("nodes" ++ " with " ++ text) = .ok f := by
    intro text d hspelled hwritable hcompiles
    have hlexes : Lexes text.toList d.tokens := hspelled ▸ lexes_spelled hwritable
    obtain ⟨f, hf, -⟩ := (decidesWith_iff_states hT).mpr ⟨d, hlexes, hcompiles, fun _ _ _ ↦ rfl⟩
    exact ⟨f, hf⟩
  let shop : Operand := .leaf (.key (.word "shop"))
  let name : Operand := .leaf (.key (.word "name"))
  let older : Operand := .leaf (.key (.word "older"))
  let equal : Operand := .leaf (.equals (.quoted "a b") (.word "c"))
  obtain ⟨fA, hA⟩ := hstates "shop or not name"
    (.chain (.chain shop []) [.chain (.not name) []]) (by decide +kernel) (by decide +kernel)
    (by rintro c (⟨⟩ | ⟨_, ⟨⟩ | ⟨_, ⟨⟩⟩⟩) <;> exact ⟨_, rfl⟩)
  obtain ⟨fB, hB⟩ := hstates "older and \"a b\" = c"
    (.chain (.chain older [equal]) []) (by decide +kernel) (by decide +kernel)
    (by rintro c (⟨⟩ | ⟨_, ⟨⟩ | ⟨_, ⟨⟩⟩⟩) <;> exact ⟨_, rfl⟩)
  exact ⟨fA, fB, hA, hB, (accepts_compose hT hA hB).2.2.1⟩

end TagQuery
