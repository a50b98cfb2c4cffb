import TagQuery.Proofs.Except
import TagQuery.Proofs.Query.Grammar
import TagQuery.Proofs.Query.Lexing

/-!
# Reading follows the grammar

A query is read successfully exactly if its tokens are derivable, and what is read is what the
derivation denotes (`ofTokens_eq_ok_iff`); a list of tokens has at most one derivation
(`Derivation.tokens_injective`).

## Why greed does no harm

The reader takes patterns, literals and chains as far as they go, and looks one token past `older`
and `newer`. Completeness is therefore stated with a rest that follows: nothing that the grammar
lets follow a leaf (`FollowsLeaf`) could have been taken by it. Each level of the grammar adds the
tokens that its own chain would have taken.

## Uniqueness

Reading a leaf returns its meaning and the rest, so two leaves at the front of the same tokens have
the same meaning and the same tokens, which leaves only one of them (`Leaf.ext_meaning_tokens`).
Above the leaves the first token decides between the alternatives, and the token after an operand
decides whether its chain goes on.
-/

namespace TagQuery.Query

open Grammar

/-! ## Values, lists and literals -/

theorem Reader.text_token (expected : Expectation) (v : Value) (ts : List Token) :
    text expected (v.token :: ts) = .ok (v.text, ts) := by cases v <;> rfl

theorem Reader.exists_of_text {expected : Expectation} {ts rest : List Token} {s : String}
    (h : text expected ts = .ok (s, rest)) : ∃ v : Value, ts = v.token :: rest ∧ v.text = s := by
  unfold text at h
  split at h
  · cases h
    exact ⟨.word s, rfl, rfl⟩
  · cases h
    exact ⟨.quoted s, rfl, rfl⟩
  · cases h

theorem Reader.morePatterns_after {vs : List Value} {rest : List Token}
    (h : rest.head? ≠ some (.symbol .bar)) :
    morePatterns (after (.symbol .bar) Value.token vs ++ rest) = .ok (vs.map Value.text, rest) := by
  induction vs with
  | nil =>
    rw [after, List.flatMap_nil, List.nil_append, List.map_nil]
    unfold morePatterns
    split
    · exact absurd rfl h
    · exact absurd rfl h
    · exact absurd rfl h
    · rfl
  | cons v vs ih =>
    have hstep : after (.symbol .bar) Value.token (v :: vs) ++ rest
        = .symbol .bar :: v.token :: (after (.symbol .bar) Value.token vs ++ rest) := rfl
    rw [hstep]
    cases v <;> rw [Value.token, morePatterns, ih] <;> rfl

theorem Reader.exists_of_morePatterns {ts rest : List Token} {ss : List String}
    (h : morePatterns ts = .ok (ss, rest)) :
    ∃ vs : List Value, ts = after (.symbol .bar) Value.token vs ++ rest ∧
      vs.map Value.text = ss := by
  fun_induction morePatterns ts generalizing ss rest with
  | case1 s ts ih =>
    obtain ⟨⟨ss', rest'⟩, hr, he⟩ := map_eq_ok_iff.mp h
    obtain ⟨vs, rfl, rfl⟩ := ih hr
    cases he
    exact ⟨.word s :: vs, rfl, rfl⟩
  | case2 s ts ih =>
    obtain ⟨⟨ss', rest'⟩, hr, he⟩ := map_eq_ok_iff.mp h
    obtain ⟨vs, rfl, rfl⟩ := ih hr
    cases he
    exact ⟨.quoted s :: vs, rfl, rfl⟩
  | case3 => cases h
  | case4 =>
    cases h
    exact ⟨[], rfl, rfl⟩

theorem Reader.patterns_listTokens {vs : Several Value} {rest : List Token}
    (h : rest.head? ≠ some (.symbol .bar)) :
    patterns (listTokens vs ++ rest) = .ok (Grammar.texts vs, rest) := by
  have hstep : listTokens vs ++ rest
      = vs.first.token :: (after (.symbol .bar) Value.token vs.more ++ rest) := rfl
  rw [hstep, patterns, text_token]
  change Except.bind (morePatterns _) _ = _
  rw [morePatterns_after h]
  rfl

theorem Reader.exists_of_patterns {ts rest : List Token} {ss : List String}
    (h : patterns ts = .ok (ss, rest)) :
    ∃ vs : Several Value, ts = listTokens vs ++ rest ∧ Grammar.texts vs = ss := by
  obtain ⟨⟨s, ts'⟩, hs, h⟩ := bind_eq_ok_iff.mp h
  obtain ⟨⟨ss', rest'⟩, hss, h⟩ := bind_eq_ok_iff.mp h
  obtain ⟨v, rfl, rfl⟩ := exists_of_text hs
  obtain ⟨vs, rfl, rfl⟩ := exists_of_morePatterns hss
  cases h
  exact ⟨⟨v, vs⟩, rfl, rfl⟩

theorem Reader.texts_map_token {vs : List Value} {rest : List Token}
    (h : ∀ t ∈ rest.head?, t.text? = none) :
    texts (vs.map Value.token ++ rest) = (vs.map Value.text, rest) := by
  induction vs with
  | nil =>
    rw [List.map_nil, List.nil_append, List.map_nil]
    unfold texts
    split
    · exact absurd (h _ rfl) (by simp [Token.text?])
    · exact absurd (h _ rfl) (by simp [Token.text?])
    · rfl
  | cons v vs ih => cases v <;> rw [List.map_cons, Value.token, List.cons_append, texts, ih] <;> rfl

theorem Reader.exists_texts (ts : List Token) :
    ∃ vs : List Value, ts = vs.map Value.token ++ (texts ts).2 ∧
      vs.map Value.text = (texts ts).1 := by
  fun_induction texts ts with
  | case1 s ts ss rest h ih =>
    obtain ⟨vs, hts, hss⟩ := ih
    rw [h] at hts hss
    exact ⟨.word s :: vs, congrArg (Token.word s :: ·) hts, congrArg (s :: ·) hss⟩
  | case2 s ts ss rest h ih =>
    obtain ⟨vs, hts, hss⟩ := ih
    rw [h] at hts hss
    exact ⟨.quoted s :: vs, congrArg (Token.quoted s :: ·) hts, congrArg (s :: ·) hss⟩
  | case3 ts => exact ⟨[], rfl, rfl⟩

theorem Reader.literal_literalTokens {l : Several Value} {rest : List Token}
    (h : ∀ t ∈ rest.head?, t.text? = none) :
    literal (literalTokens l ++ rest) = .ok (literalText l, rest) := by
  have hstep : literalTokens l ++ rest
      = l.first.token :: (l.more.map Value.token ++ rest) := rfl
  rw [hstep, literal, text_token]
  change Except.ok (" ".intercalate (l.first.text :: (texts _).1), (texts _).2) = _
  rw [texts_map_token h]
  rfl

theorem Reader.exists_of_literal {ts rest : List Token} {s : String}
    (h : literal ts = .ok (s, rest)) :
    ∃ l : Several Value, ts = literalTokens l ++ rest ∧ literalText l = s := by
  obtain ⟨⟨s', ts'⟩, hs, h⟩ := bind_eq_ok_iff.mp h
  obtain ⟨v, rfl, rfl⟩ := exists_of_text hs
  obtain ⟨vs, hts, hvs⟩ := exists_texts ts'
  cases h
  refine ⟨⟨v, vs⟩, congrArg (v.token :: ·) hts, ?_⟩
  exact congrArg (fun ss ↦ " ".intercalate (v.text :: ss)) hvs

/-! ## Leaves -/

/-- What may follow a leaf: nothing, `and`, `or` or `)`. -/
def FollowsLeaf (rest : List Token) : Prop :=
  ∀ t ∈ rest.head?, t = .keyword .and ∨ t = .keyword .or ∨ t = .symbol .closeParen

/-- What may follow a conjunction, which ends where there is no further `and`. -/
structure FollowsConjunction (rest : List Token) : Prop where
  followsLeaf : FollowsLeaf rest
  head?_ne_and : rest.head? ≠ some (.keyword .and)

/-- What may follow a disjunction. -/
structure FollowsDisjunction (rest : List Token) : Prop extends FollowsConjunction rest where
  head?_ne_or : rest.head? ≠ some (.keyword .or)

theorem followsDisjunction_nil : FollowsDisjunction [] where
  followsLeaf := nofun
  head?_ne_and := nofun
  head?_ne_or := nofun

theorem followsDisjunction_closeParen (rest : List Token) :
    FollowsDisjunction (.symbol .closeParen :: rest) where
  followsLeaf t ht := .inr (.inr (Option.some.inj ht).symm)
  head?_ne_and := by simp
  head?_ne_or := by simp

theorem FollowsLeaf.text?_eq_none {rest : List Token} (h : FollowsLeaf rest) :
    ∀ t ∈ rest.head?, t.text? = none := by
  intro t ht
  rcases h t ht with rfl | rfl | rfl <;> rfl

theorem FollowsLeaf.head?_ne_symbol {rest : List Token} (h : FollowsLeaf rest) {s : Symbol}
    (hs : s ≠ .closeParen) : rest.head? ≠ some (.symbol s) := by
  intro hr
  rcases h _ hr with h | h | h
  · cases h
  · cases h
  · exact hs (Token.symbol.inj h)

theorem Reader.age?_eq_none {w : String} {ts : List Token} (h : ∀ t ∈ ts.head?, t.text? = none) :
    age? w ts = none := by
  cases ts with
  | nil => rfl
  | cons t ts =>
    rw [age?, List.head?_cons, Option.bind_some, h t rfl]
    rfl

/-- A value opens a condition on its key, unless a text follows it. -/
theorem Reader.condition_token (k : Value) {ts : List Token}
    (h : ∀ t ∈ ts.head?, t.text? = none) : condition (k.token :: ts) = aboutKey k.text ts := by
  cases k with
  | word w =>
    rw [Value.token, condition, age?_eq_none h]
    rfl
  | quoted s => rfl

theorem Reader.condition_word_age (age : Age) {ts : List Token}
    (h : (ts.head?.bind Token.text?).isSome) :
    condition (.word age.word :: ts) = (literal ts).map fun (l, ts) ↦ (.aged age l, ts) := by
  have hage : age? age.word ts = some age := by
    rw [age?, if_pos h]
    cases age <;> rfl
  rw [condition, hage]

theorem Reader.aboutKey_of_followsLeaf (k : String) {rest : List Token} (h : FollowsLeaf rest) :
    aboutKey k rest = .ok (.hasKey k, rest) := by
  unfold aboutKey
  split
  · exact absurd rfl (h.head?_ne_symbol (by simp))
  · exact absurd rfl (h.head?_ne_symbol (by simp))
  · exact absurd rfl (h.head?_ne_symbol (by simp))
  · exact absurd rfl (h.head?_ne_symbol (by simp))
  · exact absurd rfl (h.head?_ne_symbol (by simp))
  · rfl

theorem Reader.aboutKeysLike_of_followsLeaf (ks : List String) {rest : List Token}
    (h : FollowsLeaf rest) : aboutKeysLike ks rest = .ok (.hasKeyLike ks, rest) := by
  unfold aboutKeysLike
  split
  · exact absurd rfl (h.head?_ne_symbol (by simp))
  · rfl

/-- A leaf is read as what it means, if something follows that may follow a leaf. -/
theorem Reader.condition_tokens (l : Leaf) {rest : List Token} (h : FollowsLeaf rest) :
    condition (l.tokens ++ rest) = .ok (l.meaning, rest) := by
  have hbar : rest.head? ≠ some (.symbol .bar) := h.head?_ne_symbol (by simp)
  -- After a key comes a symbol, so the key cannot open a condition on the age.
  have hkey : ∀ (k : Value) (s : Symbol) (ts : List Token),
      condition (k.token :: .symbol s :: ts) = aboutKey k.text (.symbol s :: ts) :=
    fun k s ts ↦ condition_token k fun t ht ↦ by cases ht; rfl
  cases l with
  | key k =>
    change condition (k.token :: rest) = _
    rw [condition_token k h.text?_eq_none, aboutKey_of_followsLeaf _ h]
    rfl
  | lacks k =>
    change (text .key (k.token :: rest)).map _ = _
    rw [text_token]
    rfl
  | equals k v =>
    change condition (k.token :: .symbol .equal :: v.token :: rest) = _
    rw [hkey, aboutKey, text_token]
    rfl
  | notEquals k v =>
    change condition (k.token :: .symbol .notEqual :: v.token :: rest) = _
    rw [hkey, aboutKey, text_token]
    rfl
  | like k vs =>
    change condition (k.token :: .symbol .like :: (listTokens vs ++ rest)) = _
    rw [hkey, aboutKey, patterns_listTokens hbar]
    rfl
  | notLike k vs =>
    change condition (k.token :: .symbol .notLike :: (listTokens vs ++ rest)) = _
    rw [hkey, aboutKey, patterns_listTokens hbar]
    rfl
  | compares k op l =>
    change condition (k.token :: .symbol (.comparison op) :: (literalTokens l ++ rest)) = _
    rw [hkey, aboutKey, literal_literalTokens h.text?_eq_none]
    rfl
  | keysLike ks =>
    change Except.bind (patterns (listTokens ks ++ rest)) _ = _
    rw [patterns_listTokens hbar]
    exact aboutKeysLike_of_followsLeaf _ h
  | tagsLike ks vs =>
    -- The second list is taken as soon as its `~` is seen.
    have hstep : (Leaf.tagsLike ks vs).tokens ++ rest
        = .symbol .like :: (listTokens ks ++ (.symbol .like :: (listTokens vs ++ rest))) := by
      simp only [Leaf.tokens, List.cons_append, List.append_assoc]
    rw [hstep]
    change Except.bind (patterns (listTokens ks ++ _)) _ = _
    rw [patterns_listTokens (by simp)]
    change (patterns (listTokens vs ++ rest)).map _ = _
    rw [patterns_listTokens hbar]
    rfl
  | notKeysLike ks =>
    change (patterns (listTokens ks ++ rest)).map _ = _
    rw [patterns_listTokens hbar]
    rfl
  | aged age l =>
    have hstep : (Leaf.aged age l).tokens ++ rest
        = .word age.word :: (literalTokens l ++ rest) := rfl
    have hnext : ((literalTokens l ++ rest).head?.bind Token.text?).isSome := by
      change (Token.text? l.first.token).isSome
      rw [Value.text?_token]
      rfl
    rw [hstep, condition_word_age age hnext, literal_literalTokens h.text?_eq_none]
    rfl

theorem Reader.exists_of_aboutKey {k : Value} {ts rest : List Token} {c : Condition}
    (h : aboutKey k.text ts = .ok (c, rest)) :
    ∃ l : Leaf, k.token :: ts = l.tokens ++ rest ∧ l.meaning = c := by
  unfold aboutKey at h
  split at h
  · obtain ⟨⟨s, ts'⟩, hl, he⟩ := map_eq_ok_iff.mp h
    obtain ⟨l, rfl, rfl⟩ := exists_of_literal hl
    cases he
    exact ⟨.compares k _ l, rfl, rfl⟩
  · obtain ⟨⟨s, ts'⟩, hv, he⟩ := map_eq_ok_iff.mp h
    obtain ⟨v, rfl, rfl⟩ := exists_of_text hv
    cases he
    exact ⟨.equals k v, rfl, rfl⟩
  · obtain ⟨⟨s, ts'⟩, hv, he⟩ := map_eq_ok_iff.mp h
    obtain ⟨v, rfl, rfl⟩ := exists_of_text hv
    cases he
    exact ⟨.notEquals k v, rfl, rfl⟩
  · obtain ⟨⟨ss, ts'⟩, hvs, he⟩ := map_eq_ok_iff.mp h
    obtain ⟨vs, rfl, rfl⟩ := exists_of_patterns hvs
    cases he
    exact ⟨.like k vs, rfl, rfl⟩
  · obtain ⟨⟨ss, ts'⟩, hvs, he⟩ := map_eq_ok_iff.mp h
    obtain ⟨vs, rfl, rfl⟩ := exists_of_patterns hvs
    cases he
    exact ⟨.notLike k vs, rfl, rfl⟩
  · cases h
    exact ⟨.key k, rfl, rfl⟩

theorem Reader.exists_of_aboutKeysLike {ks : Several Value} {ts rest : List Token} {c : Condition}
    (h : aboutKeysLike (Grammar.texts ks) ts = .ok (c, rest)) :
    ∃ l : Leaf, .symbol .like :: (listTokens ks ++ ts) = l.tokens ++ rest ∧ l.meaning = c := by
  unfold aboutKeysLike at h
  split at h
  · obtain ⟨⟨ss, ts'⟩, hvs, he⟩ := map_eq_ok_iff.mp h
    obtain ⟨vs, rfl, rfl⟩ := exists_of_patterns hvs
    cases he
    refine ⟨.tagsLike ks vs, ?_, rfl⟩
    simp only [Leaf.tokens, List.cons_append, List.append_assoc]
  · cases h
    exact ⟨.keysLike ks, rfl, rfl⟩

theorem Age.word_of_ofWord? {w : String} {age : Age} (h : ofWord? w = some age) :
    w = age.word := by
  unfold ofWord? at h
  split at h
  · cases h
    rfl
  · cases h
    rfl
  · cases h

/-- What is read as a condition is a leaf with that meaning. -/
theorem Reader.exists_of_condition {ts rest : List Token} {c : Condition}
    (h : condition ts = .ok (c, rest)) : ∃ l : Leaf, ts = l.tokens ++ rest ∧ l.meaning = c := by
  unfold condition at h
  split at h
  · obtain ⟨⟨s, ts'⟩, hk, he⟩ := map_eq_ok_iff.mp h
    obtain ⟨k, rfl, rfl⟩ := exists_of_text hk
    cases he
    exact ⟨.lacks k, rfl, rfl⟩
  · obtain ⟨⟨ps, ts'⟩, hks, h⟩ := bind_eq_ok_iff.mp h
    obtain ⟨ks, rfl, rfl⟩ := exists_of_patterns hks
    exact exists_of_aboutKeysLike h
  · obtain ⟨⟨ss, ts'⟩, hks, he⟩ := map_eq_ok_iff.mp h
    obtain ⟨ks, rfl, rfl⟩ := exists_of_patterns hks
    cases he
    exact ⟨.notKeysLike ks, rfl, rfl⟩
  · next w ts =>
    split at h
    · next age hage =>
      obtain ⟨⟨s, ts'⟩, hl, he⟩ := map_eq_ok_iff.mp h
      obtain ⟨l, rfl, rfl⟩ := exists_of_literal hl
      cases he
      unfold age? at hage
      split at hage
      · rw [Age.word_of_ofWord? hage]
        exact ⟨.aged age l, rfl, rfl⟩
      · cases hage
    · exact exists_of_aboutKey (k := .word w) h
  · next k ts => exact exists_of_aboutKey (k := .quoted k) h
  · cases h

/-! ## Soundness of expressions

By induction on the depth, for the five readers at once. What a chain reads is stated for its
operands alone, since the reader carries the expression so far along. -/

/-- What the readers of a depth find is derivable and means what they return. -/
structure Reader.Sound (depth : Nat) : Prop where
  operand : ∀ {ts rest e}, operand depth ts = .ok (e, rest) →
    ∃ o : Operand, ts = o.tokens ++ rest ∧ o.meaning = e
  conjuncts : ∀ {first ts rest e}, conjunctionFrom depth first ts = .ok (e, rest) →
    ∃ os : List Operand, ts = andTokens os ++ rest ∧
      (conjunctMeanings os).foldl Expr.and first = e
  conjunction : ∀ {ts rest e}, conjunction depth ts = .ok (e, rest) →
    ∃ c : Conjunction, ts = c.tokens ++ rest ∧ c.meaning = e
  disjuncts : ∀ {first ts rest e}, disjunctionFrom depth first ts = .ok (e, rest) →
    ∃ cs : List Conjunction, ts = orTokens cs ++ rest ∧
      (disjunctMeanings cs).foldl Expr.or first = e
  disjunction : ∀ {ts rest e}, disjunction depth ts = .ok (e, rest) →
    ∃ d : Disjunction, ts = d.tokens ++ rest ∧ d.meaning = e

theorem Reader.sound_zero : Sound 0 where
  operand h := by
    rw [Reader.operand] at h
    cases h
  conjuncts h := by
    rw [conjunctionFrom] at h
    · cases h
      exact ⟨[], rfl, rfl⟩
    · simp
  conjunction h := by
    rw [Reader.conjunction] at h
    cases h
  disjuncts h := by
    rw [disjunctionFrom] at h
    · cases h
      exact ⟨[], rfl, rfl⟩
    · simp
  disjunction h := by
    rw [Reader.disjunction] at h
    cases h

section

variable {depth : Nat} (ih : Reader.Sound depth)

include ih

private theorem Reader.exists_of_operand_succ {ts rest : List Token} {e : Expr Condition}
    (h : operand (depth + 1) ts = .ok (e, rest)) :
    ∃ o : Operand, ts = o.tokens ++ rest ∧ o.meaning = e := by
  unfold operand at h
  split at h
  · cases ‹depth + 1 = 0›
  · next heq =>
    obtain rfl := Nat.succ.inj heq
    obtain ⟨⟨e', ts'⟩, ho, h⟩ := bind_eq_ok_iff.mp h
    obtain ⟨o, rfl, rfl⟩ := ih.operand ho
    cases h
    exact ⟨.not o, rfl, rfl⟩
  · next heq =>
    obtain rfl := Nat.succ.inj heq
    obtain ⟨⟨e', ts'⟩, hd, hclose⟩ := bind_eq_ok_iff.mp h
    obtain ⟨d, rfl, rfl⟩ := ih.disjunction hd
    split at hclose
    · next heq =>
      cases heq
      cases hclose
      refine ⟨.parens d, ?_, rfl⟩
      simp only [Operand.tokens, List.cons_append, List.append_assoc, List.nil_append]
    · cases hclose
  · next heq =>
    obtain ⟨⟨c, ts'⟩, hc, h⟩ := bind_eq_ok_iff.mp h
    obtain ⟨l, rfl, rfl⟩ := exists_of_condition hc
    cases h
    exact ⟨.leaf l, rfl, rfl⟩

private theorem Reader.exists_of_conjunctionFrom_succ {first e : Expr Condition}
    {ts rest : List Token} (h : conjunctionFrom (depth + 1) first ts = .ok (e, rest)) :
    ∃ os : List Operand, ts = andTokens os ++ rest ∧
      (conjunctMeanings os).foldl Expr.and first = e := by
  unfold conjunctionFrom at h
  split at h
  · next heq =>
    obtain rfl := Nat.succ.inj heq
    obtain ⟨⟨e', ts'⟩, ho, h⟩ := bind_eq_ok_iff.mp h
    obtain ⟨o, rfl, rfl⟩ := ih.operand ho
    obtain ⟨os, rfl, rfl⟩ := ih.conjuncts h
    refine ⟨o :: os, ?_, rfl⟩
    simp only [andTokens, List.cons_append, List.append_assoc]
  · cases h
    exact ⟨[], rfl, rfl⟩

private theorem Reader.exists_of_disjunctionFrom_succ {first e : Expr Condition}
    {ts rest : List Token} (h : disjunctionFrom (depth + 1) first ts = .ok (e, rest)) :
    ∃ cs : List Conjunction, ts = orTokens cs ++ rest ∧
      (disjunctMeanings cs).foldl Expr.or first = e := by
  unfold disjunctionFrom at h
  split at h
  · next heq =>
    obtain rfl := Nat.succ.inj heq
    obtain ⟨⟨e', ts'⟩, hc, h⟩ := bind_eq_ok_iff.mp h
    obtain ⟨c, rfl, rfl⟩ := ih.conjunction hc
    obtain ⟨cs, rfl, rfl⟩ := ih.disjuncts h
    refine ⟨c :: cs, ?_, rfl⟩
    simp only [orTokens, List.cons_append, List.append_assoc]
  · cases h
    exact ⟨[], rfl, rfl⟩

theorem Reader.sound_succ : Sound (depth + 1) where
  operand h := exists_of_operand_succ ih h
  conjuncts h := exists_of_conjunctionFrom_succ ih h
  conjunction h := by
    rw [Reader.conjunction] at h
    obtain ⟨⟨e, ts'⟩, ho, h⟩ := bind_eq_ok_iff.mp h
    obtain ⟨o, rfl, rfl⟩ := ih.operand ho
    obtain ⟨os, rfl, rfl⟩ := ih.conjuncts h
    refine ⟨.chain o os, ?_, ?_⟩
    · rw [Conjunction.tokens, List.append_assoc]
    · rw [Conjunction.meaning, Expr.foldl_and]
  disjuncts h := exists_of_disjunctionFrom_succ ih h
  disjunction h := by
    rw [Reader.disjunction] at h
    obtain ⟨⟨e, ts'⟩, hc, h⟩ := bind_eq_ok_iff.mp h
    obtain ⟨c, rfl, rfl⟩ := ih.conjunction hc
    obtain ⟨cs, rfl, rfl⟩ := ih.disjuncts h
    refine ⟨.chain c cs, ?_, ?_⟩
    · rw [Disjunction.tokens, List.append_assoc]
    · rw [Disjunction.meaning, Expr.foldl_or]

end

theorem Reader.sound (depth : Nat) : Sound depth := by
  induction depth with
  | zero => exact sound_zero
  | succ depth ih => exact sound_succ ih

/-! ## Completeness of expressions

The depth that a tree needs is three times the number of its tokens, give or take: going from a
disjunction to its first operand takes two steps without using up a token. -/

theorem Grammar.Leaf.exists_tokens_eq_cons (l : Leaf) :
    ∃ t ts, l.tokens = t :: ts ∧ t ≠ .keyword .not ∧ t ≠ .symbol .openParen := by
  have hvalue : ∀ v : Value, v.token ≠ .keyword .not ∧ v.token ≠ .symbol .openParen := by
    intro v
    cases v <;> exact ⟨nofun, nofun⟩
  cases l with
  | key k | equals k _ | notEquals k _ | like k _ | notLike k _ | compares k _ _ =>
    exact ⟨k.token, _, rfl, hvalue k⟩
  | lacks _ | keysLike _ | tagsLike _ _ | notKeysLike _ => exact ⟨_, _, rfl, nofun, nofun⟩
  | aged age _ => exact ⟨.word age.word, _, rfl, nofun, nofun⟩

theorem Grammar.Operand.length_tokens_pos (o : Operand) : 0 < o.tokens.length := by
  cases o with
  | not o => exact Nat.succ_pos _
  | parens d => exact Nat.succ_pos _
  | leaf l =>
    obtain ⟨t, ts, ht, -⟩ := l.exists_tokens_eq_cons
    rw [Operand.tokens, ht]
    exact Nat.succ_pos _

theorem Grammar.Conjunction.length_tokens_pos (c : Conjunction) : 0 < c.tokens.length := by
  obtain ⟨o, os⟩ := c
  rw [Conjunction.tokens, List.length_append]
  exact Nat.add_pos_left o.length_tokens_pos _

theorem FollowsLeaf.andTokens_append {rest : List Token} (h : FollowsLeaf rest)
    (os : List Operand) : FollowsLeaf (andTokens os ++ rest) := by
  cases os with
  | nil => exact h
  | cons o os =>
    intro t ht
    cases ht
    exact .inl rfl

theorem FollowsConjunction.orTokens_append {rest : List Token} (h : FollowsConjunction rest)
    (cs : List Conjunction) : FollowsConjunction (orTokens cs ++ rest) := by
  cases cs with
  | nil => exact h
  | cons c cs =>
    refine ⟨?_, by simp [orTokens]⟩
    intro t ht
    cases ht
    exact .inr (.inl rfl)

theorem Reader.operand_leaf {depth : Nat} (l : Leaf) {rest : List Token} (h : FollowsLeaf rest) :
    operand (depth + 1) (l.tokens ++ rest) = .ok (.leaf l.meaning, rest) := by
  obtain ⟨t, ts, ht, hnot, hparen⟩ := l.exists_tokens_eq_cons
  have hread := condition_tokens l h
  rw [ht, List.cons_append] at hread ⊢
  unfold operand
  split
  · cases ‹depth + 1 = 0›
  · next heq => exact absurd (List.cons.inj heq).1 hnot
  · next heq => exact absurd (List.cons.inj heq).1 hparen
  · rw [hread]
    rfl

mutual

theorem Reader.operand_tokens (o : Operand) {depth : Nat} {rest : List Token}
    (hd : 3 * o.tokens.length ≤ depth + 2) (h : FollowsLeaf rest) :
    operand depth (o.tokens ++ rest) = .ok (o.meaning, rest) := by
  obtain ⟨depth, rfl⟩ : ∃ n, depth = n + 1 :=
    ⟨depth - 1, by have := o.length_tokens_pos; omega⟩
  match o with
  | .not o =>
    rw [Operand.tokens, List.length_cons] at hd
    rw [Operand.tokens, List.cons_append, operand, operand_tokens o (by omega) h]
    rfl
  | .parens d =>
    simp only [Operand.tokens, List.length_cons, List.length_append, List.length_nil] at hd
    rw [Operand.tokens, List.cons_append, List.append_assoc, List.singleton_append, operand,
      disjunction_tokens d (by omega) (followsDisjunction_closeParen rest)]
    rfl
  | .leaf l => exact operand_leaf l h

theorem Reader.conjunctionFrom_andTokens (os : List Operand) {depth : Nat}
    {first : Expr Condition} {rest : List Token} (hd : 3 * (andTokens os).length ≤ depth)
    (h : FollowsConjunction rest) :
    conjunctionFrom depth first (andTokens os ++ rest)
      = .ok ((conjunctMeanings os).foldl Expr.and first, rest) := by
  match os with
  | [] =>
    rw [andTokens, List.nil_append]
    unfold conjunctionFrom
    split
    · exact absurd rfl h.head?_ne_and
    · rfl
  | o :: os =>
    simp only [andTokens, List.length_cons, List.length_append] at hd
    obtain ⟨depth, rfl⟩ : ∃ n, depth = n + 1 := ⟨depth - 1, by omega⟩
    rw [andTokens, List.cons_append, List.append_assoc, conjunctionFrom,
      operand_tokens o (by omega) (h.followsLeaf.andTokens_append os)]
    exact conjunctionFrom_andTokens os (by omega) h

theorem Reader.conjunction_tokens (c : Conjunction) {depth : Nat} {rest : List Token}
    (hd : 3 * c.tokens.length ≤ depth + 1) (h : FollowsConjunction rest) :
    conjunction depth (c.tokens ++ rest) = .ok (c.meaning, rest) := by
  obtain ⟨depth, rfl⟩ : ∃ n, depth = n + 1 :=
    ⟨depth - 1, by have := c.length_tokens_pos; omega⟩
  match c with
  | .chain o os =>
    have hpos := o.length_tokens_pos
    rw [Conjunction.tokens, List.length_append] at hd
    rw [Conjunction.tokens, List.append_assoc, conjunction,
      operand_tokens o (by omega) (h.followsLeaf.andTokens_append os)]
    change conjunctionFrom depth o.meaning (andTokens os ++ rest) = _
    rw [conjunctionFrom_andTokens os (by omega) h, Conjunction.meaning, Expr.foldl_and]

theorem Reader.disjunctionFrom_orTokens (cs : List Conjunction) {depth : Nat}
    {first : Expr Condition} {rest : List Token} (hd : 3 * (orTokens cs).length ≤ depth)
    (h : FollowsDisjunction rest) :
    disjunctionFrom depth first (orTokens cs ++ rest)
      = .ok ((disjunctMeanings cs).foldl Expr.or first, rest) := by
  match cs with
  | [] =>
    rw [orTokens, List.nil_append]
    unfold disjunctionFrom
    split
    · exact absurd rfl h.head?_ne_or
    · rfl
  | c :: cs =>
    simp only [orTokens, List.length_cons, List.length_append] at hd
    obtain ⟨depth, rfl⟩ : ∃ n, depth = n + 1 := ⟨depth - 1, by omega⟩
    rw [orTokens, List.cons_append, List.append_assoc, disjunctionFrom,
      conjunction_tokens c (by omega) (h.toFollowsConjunction.orTokens_append cs)]
    exact disjunctionFrom_orTokens cs (by omega) h

theorem Reader.disjunction_tokens (d : Disjunction) {depth : Nat} {rest : List Token}
    (hd : 3 * d.tokens.length ≤ depth) (h : FollowsDisjunction rest) :
    disjunction depth (d.tokens ++ rest) = .ok (d.meaning, rest) := by
  match d with
  | .chain c cs =>
    have hpos := c.length_tokens_pos
    rw [Disjunction.tokens, List.length_append] at hd
    obtain ⟨depth, rfl⟩ : ∃ n, depth = n + 1 := ⟨depth - 1, by omega⟩
    rw [Disjunction.tokens, List.append_assoc, disjunction,
      conjunction_tokens c (by omega) (h.toFollowsConjunction.orTokens_append cs)]
    change disjunctionFrom depth c.meaning (orTokens cs ++ rest) = _
    rw [disjunctionFrom_orTokens cs (by omega) h, Disjunction.meaning, Expr.foldl_or]

end

/-! ## Uniqueness -/

theorem Grammar.after_unique {α : Type} {separator : Token} {token : α → Token}
    (htoken : ∀ {a b}, token a = token b → a = b) {as bs : List α} {rest rest' : List Token}
    (heq : after separator token as ++ rest = after separator token bs ++ rest')
    (h : rest.head? ≠ some separator) (h' : rest'.head? ≠ some separator) :
    as = bs ∧ rest = rest' := by
  induction as generalizing bs with
  | nil =>
    cases bs with
    | nil => exact ⟨rfl, heq⟩
    | cons b bs => exact absurd (congrArg List.head? heq) h
  | cons a as ih =>
    cases bs with
    | nil => exact absurd (congrArg List.head? heq).symm h'
    | cons b bs =>
      injection heq with _ heq
      injection heq with hab heq
      obtain ⟨rfl, hrest⟩ := ih heq
      rw [htoken hab]
      exact ⟨rfl, hrest⟩

theorem Grammar.separated_unique {α : Type} {separator : Token} {token : α → Token}
    (htoken : ∀ {a b}, token a = token b → a = b) {s t : Several α} {rest rest' : List Token}
    (heq : separated separator token s ++ rest = separated separator token t ++ rest')
    (h : rest.head? ≠ some separator) (h' : rest'.head? ≠ some separator) :
    s = t ∧ rest = rest' := by
  injection heq with hfirst heq
  obtain ⟨hmore, hrest⟩ := after_unique htoken heq h h'
  refine ⟨Several.toList_injective ?_, hrest⟩
  rw [Several.toList, Several.toList, htoken hfirst, hmore]

theorem Grammar.listTokens_injective {vs ws : Several Value} (h : listTokens vs = listTokens ws) :
    vs = ws :=
  (separated_unique Value.token_injective (congrArg (· ++ []) h) nofun nofun).1

theorem Grammar.literalTokens_injective {l m : Several Value}
    (h : literalTokens l = literalTokens m) : l = m :=
  Several.toList_injective (List.map_inj_right (fun _ _ ↦ Value.token_injective) |>.mp h)

theorem Grammar.length_listTokens (vs : Several Value) :
    (listTokens vs).length = 2 * (texts vs).length - 1 := by
  have hafter : ∀ ws : List Value,
      (after (.symbol .bar) Value.token ws).length = 2 * ws.length := by
    intro ws
    induction ws with
    | nil => rfl
    | cons w ws ih =>
      change (after (.symbol .bar) Value.token ws).length + 2 = _
      rw [ih, List.length_cons]
      omega
  change (after (.symbol .bar) Value.token vs.more).length + 1
    = 2 * (vs.first.text :: vs.more.map Value.text).length - 1
  rw [hafter, List.length_cons, List.length_map]
  omega

/-- The meaning tells which alternative a leaf is, and the tokens tell the rest. -/
theorem Grammar.Leaf.ext_meaning_tokens {l m : Leaf} (hmeaning : l.meaning = m.meaning)
    (htokens : l.tokens = m.tokens) : l = m := by
  have hkey : ∀ {k k' : Value} {t t' : Token} {ts ts' : List Token},
      k.token :: t :: ts = k'.token :: t' :: ts' → k = k' ∧ t = t' ∧ ts = ts' := by
    intro k k' t t' ts ts' h
    injection h with hk h
    exact ⟨Value.token_injective hk, List.cons.inj h⟩
  cases l <;> cases m <;> try contradiction
  case key.key k k' => rw [Value.token_injective (List.cons.inj htokens).1]
  case lacks.lacks k k' =>
    injection htokens with _ htokens
    rw [Value.token_injective (List.cons.inj htokens).1]
  case equals.equals | notEquals.notEquals =>
    obtain ⟨rfl, -, hv⟩ := hkey htokens
    rw [Value.token_injective (List.cons.inj hv).1]
  case like.like | notLike.notLike =>
    obtain ⟨rfl, -, hvs⟩ := hkey htokens
    rw [listTokens_injective hvs]
  case compares.compares =>
    obtain ⟨rfl, hop, hl⟩ := hkey htokens
    cases hop
    rw [literalTokens_injective hl]
  case keysLike.keysLike | notKeysLike.notKeysLike =>
    rw [listTokens_injective (List.cons.inj htokens).2]
  case tagsLike.tagsLike ks vs ks' vs' =>
    injection hmeaning with hks
    have hlength : (listTokens ks).length = (listTokens ks').length := by
      rw [length_listTokens, length_listTokens, hks]
    obtain ⟨hks, hvs⟩ := List.append_inj (List.cons.inj htokens).2 hlength
    rw [listTokens_injective hks, listTokens_injective (List.cons.inj hvs).2]
  case aged.aged age l age' l' =>
    injection hmeaning with hage
    rw [hage, literalTokens_injective (List.cons.inj htokens).2]

theorem Grammar.Leaf.tokens_unique {l m : Leaf} {rest rest' : List Token}
    (heq : l.tokens ++ rest = m.tokens ++ rest') (h : FollowsLeaf rest)
    (h' : FollowsLeaf rest') : l = m ∧ rest = rest' := by
  have hread := Reader.condition_tokens l h
  rw [heq, Reader.condition_tokens m h'] at hread
  injection hread with hread
  obtain ⟨hmeaning, rfl⟩ := Prod.mk.inj hread
  exact ⟨ext_meaning_tokens hmeaning.symm (List.append_cancel_right heq), rfl⟩

mutual

theorem Grammar.Operand.tokens_unique (o p : Operand) {rest rest' : List Token}
    (heq : o.tokens ++ rest = p.tokens ++ rest') (h : FollowsLeaf rest)
    (h' : FollowsLeaf rest') : o = p ∧ rest = rest' := by
  match o, p with
  | .not o, .not p =>
    obtain ⟨rfl, hrest⟩ := Operand.tokens_unique o p (List.cons.inj heq).2 h h'
    exact ⟨rfl, hrest⟩
  | .parens d, .parens e =>
    simp only [Operand.tokens, List.cons_append, List.append_assoc, List.nil_append] at heq
    obtain ⟨rfl, hrest⟩ := Disjunction.tokens_unique d e (List.cons.inj heq).2
      (followsDisjunction_closeParen rest) (followsDisjunction_closeParen rest')
    exact ⟨rfl, (List.cons.inj hrest).2⟩
  | .leaf l, .leaf m =>
    obtain ⟨rfl, hrest⟩ := Leaf.tokens_unique heq h h'
    exact ⟨rfl, hrest⟩
  | .not _, .parens _ | .parens _, .not _ => cases heq
  | .leaf l, .not _ | .leaf l, .parens _ =>
    obtain ⟨t, ts, ht, hnot, hparen⟩ := l.exists_tokens_eq_cons
    change l.tokens ++ rest = _ at heq
    rw [ht] at heq
    first
      | exact absurd (List.cons.inj heq).1 hnot
      | exact absurd (List.cons.inj heq).1 hparen
  | .not _, .leaf m | .parens _, .leaf m =>
    obtain ⟨t, ts, ht, hnot, hparen⟩ := m.exists_tokens_eq_cons
    change _ = m.tokens ++ rest' at heq
    rw [ht] at heq
    first
      | exact absurd (List.cons.inj heq).1.symm hnot
      | exact absurd (List.cons.inj heq).1.symm hparen

theorem Grammar.andTokens_unique (os ps : List Operand) {rest rest' : List Token}
    (heq : andTokens os ++ rest = andTokens ps ++ rest') (h : FollowsConjunction rest)
    (h' : FollowsConjunction rest') : os = ps ∧ rest = rest' := by
  match os, ps with
  | [], [] => exact ⟨rfl, heq⟩
  | [], _ :: _ => exact absurd (congrArg List.head? heq) h.head?_ne_and
  | _ :: _, [] => exact absurd (congrArg List.head? heq).symm h'.head?_ne_and
  | o :: os, p :: ps =>
    simp only [andTokens, List.cons_append, List.append_assoc] at heq
    obtain ⟨rfl, hmore⟩ := Operand.tokens_unique o p (List.cons.inj heq).2
      (h.followsLeaf.andTokens_append os) (h'.followsLeaf.andTokens_append ps)
    obtain ⟨rfl, hrest⟩ := andTokens_unique os ps hmore h h'
    exact ⟨rfl, hrest⟩

theorem Grammar.Conjunction.tokens_unique (c d : Conjunction) {rest rest' : List Token}
    (heq : c.tokens ++ rest = d.tokens ++ rest') (h : FollowsConjunction rest)
    (h' : FollowsConjunction rest') : c = d ∧ rest = rest' := by
  match c, d with
  | .chain o os, .chain p ps =>
    rw [Conjunction.tokens, Conjunction.tokens, List.append_assoc, List.append_assoc] at heq
    obtain ⟨rfl, hmore⟩ := Operand.tokens_unique o p heq (h.followsLeaf.andTokens_append os)
      (h'.followsLeaf.andTokens_append ps)
    obtain ⟨rfl, hrest⟩ := andTokens_unique os ps hmore h h'
    exact ⟨rfl, hrest⟩

theorem Grammar.orTokens_unique (cs ds : List Conjunction) {rest rest' : List Token}
    (heq : orTokens cs ++ rest = orTokens ds ++ rest') (h : FollowsDisjunction rest)
    (h' : FollowsDisjunction rest') : cs = ds ∧ rest = rest' := by
  match cs, ds with
  | [], [] => exact ⟨rfl, heq⟩
  | [], _ :: _ => exact absurd (congrArg List.head? heq) h.head?_ne_or
  | _ :: _, [] => exact absurd (congrArg List.head? heq).symm h'.head?_ne_or
  | c :: cs, d :: ds =>
    simp only [orTokens, List.cons_append, List.append_assoc] at heq
    obtain ⟨rfl, hmore⟩ := Conjunction.tokens_unique c d (List.cons.inj heq).2
      (h.toFollowsConjunction.orTokens_append cs) (h'.toFollowsConjunction.orTokens_append ds)
    obtain ⟨rfl, hrest⟩ := orTokens_unique cs ds hmore h h'
    exact ⟨rfl, hrest⟩

theorem Grammar.Disjunction.tokens_unique (d e : Disjunction) {rest rest' : List Token}
    (heq : d.tokens ++ rest = e.tokens ++ rest') (h : FollowsDisjunction rest)
    (h' : FollowsDisjunction rest') : d = e ∧ rest = rest' := by
  match d, e with
  | .chain c cs, .chain c' cs' =>
    rw [Disjunction.tokens, Disjunction.tokens, List.append_assoc, List.append_assoc] at heq
    obtain ⟨rfl, hmore⟩ := Conjunction.tokens_unique c c' heq
      (h.toFollowsConjunction.orTokens_append cs) (h'.toFollowsConjunction.orTokens_append cs')
    obtain ⟨rfl, hrest⟩ := orTokens_unique cs cs' hmore h h'
    exact ⟨rfl, hrest⟩

end

/-! ## Queries -/

theorem Reader.moreKinds_after (s : KindSet) {ks : List Kind} {rest : List Token}
    (h : rest.head? ≠ some (.symbol .comma)) :
    moreKinds s (after (.symbol .comma) (fun k ↦ .keyword (.kind k)) ks ++ rest)
      = .ok (ks.foldl KindSet.insert s, rest) := by
  induction ks generalizing s with
  | nil =>
    rw [after, List.flatMap_nil, List.nil_append]
    unfold moreKinds
    split
    · exact absurd rfl h
    · exact absurd rfl h
    · rfl
  | cons k ks ih => exact ih (s.insert k)

theorem Reader.exists_of_moreKinds {s s' : KindSet} {ts rest : List Token}
    (h : moreKinds s ts = .ok (s', rest)) :
    ∃ ks : List Kind, ts = after (.symbol .comma) (fun k ↦ .keyword (.kind k)) ks ++ rest ∧
      ks.foldl KindSet.insert s = s' := by
  fun_induction moreKinds s ts with
  | case1 s k ts ih =>
    obtain ⟨ks, rfl, rfl⟩ := ih h
    exact ⟨k :: ks, rfl, rfl⟩
  | case2 => cases h
  | case3 =>
    cases h
    exact ⟨[], rfl, rfl⟩

theorem Reader.exists_of_kinds {s : KindSet} {ts rest : List Token}
    (h : kinds ts = .ok (s, rest)) :
    ∃ ks : Several Kind, ts = Derivation.kindTokens ks ++ rest ∧ KindSet.ofList ks.toList = s := by
  unfold kinds at h
  split at h
  · next k _ =>
    obtain ⟨ks, rfl, rfl⟩ := exists_of_moreKinds h
    exact ⟨⟨k, ks⟩, rfl, rfl⟩
  · cases h

theorem Grammar.Derivation.head?_clauseTokens_ne_comma (c : Option Disjunction) :
    (clauseTokens c).head? ≠ some (.symbol .comma) := by
  cases c <;> simp [clauseTokens]

/-- The kinds end where no comma follows. -/
theorem Grammar.Derivation.kindTokens_unique {ks ks' : Several Kind} {rest rest' : List Token}
    (heq : kindTokens ks ++ rest = kindTokens ks' ++ rest')
    (h : rest.head? ≠ some (.symbol .comma)) (h' : rest'.head? ≠ some (.symbol .comma)) :
    ks = ks' ∧ rest = rest' :=
  separated_unique (fun h ↦ Keyword.kind.inj (Token.keyword.inj h)) heq h h'

theorem Grammar.Derivation.clauseTokens_injective {c c' : Option Disjunction}
    (h : clauseTokens c = clauseTokens c') : c = c' := by
  match c, c', h with
  | none, none, _ => rfl
  | some c, some c', h =>
    have hc := congrArg (· ++ []) (List.cons.inj h).2
    rw [(Disjunction.tokens_unique c c' hc followsDisjunction_nil followsDisjunction_nil).1]

/-- Completeness: what a derivation derives is read as what it denotes. -/
theorem ofTokens_tokens (d : Derivation) : ofTokens d.tokens = .ok d.meaning := by
  obtain ⟨⟨k, ks⟩, condition⟩ := d
  have hkinds : ∀ rest : List Token, rest.head? ≠ some (.symbol .comma) →
      Reader.kinds (Derivation.kindTokens ⟨k, ks⟩ ++ rest)
        = .ok (KindSet.ofList (k :: ks), rest) :=
    fun rest hrest ↦ Reader.moreKinds_after _ hrest
  rw [ofTokens, Derivation.tokens, hkinds _ (Derivation.head?_clauseTokens_ne_comma condition)]
  cases condition with
  | none => rfl
  | some c =>
    have hdepth : 3 * c.tokens.length ≤ Reader.depthFor c.tokens := by
      rw [Reader.depthFor]
      omega
    have hread := Reader.disjunction_tokens c hdepth followsDisjunction_nil
    rw [List.append_nil] at hread
    change Except.bind (Reader.disjunction (Reader.depthFor c.tokens) c.tokens) _ = _
    rw [hread]
    rfl

/-- Soundness: what is read as a query has a derivation that denotes it. -/
theorem exists_of_ofTokens {ts : List Token} {q : Query} (h : ofTokens ts = .ok q) :
    ∃ d : Derivation, d.tokens = ts ∧ d.meaning = q := by
  obtain ⟨⟨s, rest⟩, hkinds, h⟩ := bind_eq_ok_iff.mp h
  obtain ⟨ks, rfl, rfl⟩ := Reader.exists_of_kinds hkinds
  match rest, h with
  | [], h =>
    cases h
    exact ⟨⟨ks, none⟩, rfl, rfl⟩
  | .keyword .withClause :: ts, h =>
    obtain ⟨⟨e, rest⟩, hd, hend⟩ := bind_eq_ok_iff.mp h
    obtain ⟨d, rfl, rfl⟩ := (Reader.sound _).disjunction hd
    match rest, hend with
    | [], hend =>
      cases hend
      exact ⟨⟨ks, some d⟩, by rw [List.append_nil]; rfl, rfl⟩

/-- A query is read exactly where it is derivable, as what its derivation denotes. -/
theorem ofTokens_eq_ok_iff {ts : List Token} {q : Query} :
    ofTokens ts = .ok q ↔ ∃ d : Derivation, d.tokens = ts ∧ d.meaning = q := by
  refine ⟨exists_of_ofTokens, ?_⟩
  rintro ⟨d, rfl, rfl⟩
  exact ofTokens_tokens d

/-- A list of tokens has one derivation at most. -/
theorem Grammar.Derivation.tokens_injective {d d' : Derivation} (h : d.tokens = d'.tokens) :
    d = d' := by
  obtain ⟨ks, c⟩ := d
  obtain ⟨ks', c'⟩ := d'
  obtain ⟨rfl, hclause⟩ :=
    kindTokens_unique h (head?_clauseTokens_ne_comma c) (head?_clauseTokens_ne_comma c')
  have hc : c = c' := clauseTokens_injective hclause
  rw [hc]

/-! ## Texts -/

theorem parse_eq_ok_iff {source : String} {placed : List PlacedToken}
    (h : tokens source = .ok placed) {q : Query} :
    parse source = .ok q ↔ ofTokens (placed.map (·.token)) = .ok q := by
  rw [parse, h]
  exact mapError_eq_ok_iff

/-- What a text means, in terms of derivations alone. -/
theorem parse_eq_ok_iff_lexes {source : String} {q : Query} :
    parse source = .ok q ↔ ∃ d : Derivation, Lexes source.toList d.tokens ∧ d.meaning = q := by
  constructor
  · intro h
    cases hplaced : tokens source with
    | error e =>
      rw [parse, hplaced] at h
      cases h
    | ok placed =>
      obtain ⟨d, hd, rfl⟩ := exists_of_ofTokens ((parse_eq_ok_iff hplaced).mp h)
      exact ⟨d, lexes_iff_exists_tokens.mpr ⟨placed, hplaced, hd.symm⟩, rfl⟩
  · rintro ⟨d, hd, rfl⟩
    obtain ⟨placed, hplaced, htokens⟩ := lexes_iff_exists_tokens.mp hd
    rw [parse_eq_ok_iff hplaced, htokens]
    exact ofTokens_tokens d

/-- **Reading is the grammar.** The query of a text that is a list of tokens can be read exactly if
the tokens are derivable. Their derivation is the only one, and the query is what it denotes. -/
theorem parse_iff_derivable {source : String} {placed : List PlacedToken}
    (h : tokens source = .ok placed) :
    ((∃ q, parse source = .ok q) ↔
      ∃ d : Derivation, d.tokens = placed.map (·.token)) ∧
    ∀ d : Derivation, d.tokens = placed.map (·.token) →
      parse source = .ok d.meaning ∧
      ∀ d' : Derivation, d'.tokens = placed.map (·.token) → d' = d := by
  refine ⟨?_, fun d hd ↦ ⟨?_, fun d' hd' ↦ ?_⟩⟩
  · simp only [parse_eq_ok_iff h, ofTokens_eq_ok_iff]
    exact ⟨fun ⟨_, d, hd, _⟩ ↦ ⟨d, hd⟩, fun ⟨d, hd⟩ ↦ ⟨d.meaning, d, hd, rfl⟩⟩
  · exact (parse_eq_ok_iff h).mpr (ofTokens_eq_ok_iff.mpr ⟨d, hd, rfl⟩)
  · exact Derivation.tokens_injective (hd'.trans hd.symm)

/-- `older` before a connective is a key, `newer` before a text opens a condition, and the second
list of patterns belongs to the first. -/
theorem parse_older_as_key :
    ∃ source placed, source = "ways with older and ( not newer today or ~ a | b ~ \"or\" )" ∧
      tokens source = .ok placed ∧
      parse source = .ok ⟨⟨false, true, false⟩, some (.all [.leaf (.hasKey "older"),
        .any [.not (.leaf (.aged .newer "today")), .leaf (.hasTagLike ["a", "b"] ["or"])]])⟩ := by
  let older : Operand := .leaf (.key (.word "older"))
  let newer : Operand := .not (.leaf (.aged .newer ⟨.word "today", []⟩))
  let tags : Operand := .leaf (.tagsLike ⟨.word "a", [.word "b"]⟩ ⟨.quoted "or", []⟩)
  let either : Disjunction := .chain (.chain newer []) [.chain tags []]
  let d : Derivation := ⟨⟨.way, []⟩, some (.chain (.chain older [.parens either]) [])⟩
  have hsource : "ways with older and ( not newer today or ~ a | b ~ \"or\" )".toList
      = spelled d.tokens := by decide +kernel
  have hlexes : Lexes (spelled d.tokens) d.tokens := lexes_spelled (by decide +kernel)
  rw [← hsource] at hlexes
  obtain ⟨placed, hplaced, htokens⟩ := lexes_iff_exists_tokens.mp hlexes
  exact ⟨_, placed, rfl, hplaced, ((parse_iff_derivable hplaced).2 d htokens.symm).1⟩

end TagQuery.Query
