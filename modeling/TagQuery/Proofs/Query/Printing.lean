import TagQuery.Proofs.Query.Derivation

/-!
# Printing queries

A query can be written down so that it is read back. The kinds are listed, every text is in quotes,
and every operand that is not a single condition is in parentheses.

## Normal form

Not every query is the meaning of a text. A chain has two operands at least, and it would have been
extended rather than nested if its first operand were a chain of the same connective. With that the
grammar produces nothing but queries in *normal form* (`isNormal_of_parse`), and conversely a query
in normal form is what its own print means, since in parentheses every operand stays a node of its
own.

## Why quotes suffice

In quotes a text may hold anything: a keyword is no keyword there, `older` opens no condition on the
age, and escapes protect the quotes themselves. Only `older` and `newer` are printed as bare words.
-/

namespace TagQuery.Query

open Grammar

/-! ## Normal form -/

/-- No list of patterns is empty. -/
def Condition.IsNormal : Condition → Prop
  | matchesAny _ patterns | matchesNone _ patterns => patterns ≠ []
  | hasKeyLike patterns | lacksKeyLike patterns => patterns ≠ []
  | hasTagLike keyPatterns patterns => keyPatterns ≠ [] ∧ patterns ≠ []
  | _ => True

namespace Expr

variable {α : Type}

/-- Whether an expression is a conjunction. -/
def isAll : Expr α → Bool
  | all _ => true
  | _ => false

/-- Whether an expression is a disjunction. -/
def isAny : Expr α → Bool
  | any _ => true
  | _ => false

mutual

/-- A chain has two operands at least, and the first is no chain of the same connective. -/
def IsNormal : Expr Condition → Prop
  | all operands =>
    2 ≤ operands.length ∧ (∀ e ∈ operands.head?, e.isAll = false) ∧ AreNormal operands
  | any operands =>
    2 ≤ operands.length ∧ (∀ e ∈ operands.head?, e.isAny = false) ∧ AreNormal operands
  | not operand => operand.IsNormal
  | leaf c => c.IsNormal

/-- All of several expressions are in normal form. -/
def AreNormal : List (Expr Condition) → Prop
  | [] => True
  | e :: es => e.IsNormal ∧ AreNormal es

end

end Expr

/-- A query in normal form selects some kind. -/
def IsNormal (q : Query) : Prop :=
  q.kinds.isEmpty = false ∧ ∀ e ∈ q.condition, e.IsNormal

/-! ## What the grammar denotes is in normal form -/

theorem Grammar.texts_ne_nil (values : Several Value) : texts values ≠ [] :=
  List.cons_ne_nil _ _

theorem Grammar.Leaf.isNormal_meaning (l : Leaf) : l.meaning.IsNormal := by
  cases l with
  | like k vs | notLike k vs => exact texts_ne_nil vs
  | keysLike ks | notKeysLike ks => exact texts_ne_nil ks
  | tagsLike ks vs => exact ⟨texts_ne_nil ks, texts_ne_nil vs⟩
  | _ => trivial

namespace Expr

theorem areNormal_append {es fs : List (Expr Condition)} :
    AreNormal (es ++ fs) ↔ AreNormal es ∧ AreNormal fs := by
  induction es with
  | nil => simp [AreNormal]
  | cons e es ih => rw [List.cons_append, AreNormal, AreNormal, ih, and_assoc]

/-- What an expression in normal form brings into a conjunction that it opens. -/
theorem IsNormal.conjuncts {e : Expr Condition} (h : e.IsNormal) :
    1 ≤ e.conjuncts.length ∧ (∀ f ∈ e.conjuncts.head?, f.isAll = false) ∧
      AreNormal e.conjuncts := by
  cases e with
  | all operands =>
    obtain ⟨hlength, hhead, hoperands⟩ := h
    exact ⟨by rw [Expr.conjuncts]; omega, hhead, hoperands⟩
  | _ => exact ⟨le_refl 1, fun f hf ↦ by cases hf; rfl, h, trivial⟩

theorem IsNormal.disjuncts {e : Expr Condition} (h : e.IsNormal) :
    1 ≤ e.disjuncts.length ∧ (∀ f ∈ e.disjuncts.head?, f.isAny = false) ∧
      AreNormal e.disjuncts := by
  cases e with
  | any operands =>
    obtain ⟨hlength, hhead, hoperands⟩ := h
    exact ⟨by rw [Expr.disjuncts]; omega, hhead, hoperands⟩
  | _ => exact ⟨le_refl 1, fun f hf ↦ by cases hf; rfl, h, trivial⟩

theorem head?_append_of_pos {es fs : List (Expr Condition)} (h : 1 ≤ es.length) :
    (es ++ fs).head? = es.head? := by
  cases es with
  | nil => exact absurd h (by simp)
  | cons e es => rfl

theorem IsNormal.allOf {first : Expr Condition} {more : List (Expr Condition)}
    (h : first.IsNormal) (hmore : AreNormal more) : (first.allOf more).IsNormal := by
  cases more with
  | nil => exact h
  | cons e more =>
    obtain ⟨hlength, hhead, hoperands⟩ := h.conjuncts
    refine ⟨?_, ?_, areNormal_append.mpr ⟨hoperands, hmore⟩⟩
    · rw [List.length_append, List.length_cons]
      omega
    · rw [head?_append_of_pos hlength]
      exact hhead

theorem IsNormal.anyOf {first : Expr Condition} {more : List (Expr Condition)}
    (h : first.IsNormal) (hmore : AreNormal more) : (first.anyOf more).IsNormal := by
  cases more with
  | nil => exact h
  | cons e more =>
    obtain ⟨hlength, hhead, hoperands⟩ := h.disjuncts
    refine ⟨?_, ?_, areNormal_append.mpr ⟨hoperands, hmore⟩⟩
    · rw [List.length_append, List.length_cons]
      omega
    · rw [head?_append_of_pos hlength]
      exact hhead

end Expr

mutual

theorem Grammar.Disjunction.isNormal_meaning (d : Disjunction) : d.meaning.IsNormal := by
  match d with
  | .chain c cs => exact (c.isNormal_meaning).anyOf (areNormal_disjunctMeanings cs)

theorem Grammar.areNormal_disjunctMeanings (cs : List Conjunction) :
    Expr.AreNormal (disjunctMeanings cs) := by
  match cs with
  | [] => trivial
  | c :: cs => exact ⟨c.isNormal_meaning, areNormal_disjunctMeanings cs⟩

theorem Grammar.Conjunction.isNormal_meaning (c : Conjunction) : c.meaning.IsNormal := by
  match c with
  | .chain o os => exact (o.isNormal_meaning).allOf (areNormal_conjunctMeanings os)

theorem Grammar.areNormal_conjunctMeanings (os : List Operand) :
    Expr.AreNormal (conjunctMeanings os) := by
  match os with
  | [] => trivial
  | o :: os => exact ⟨o.isNormal_meaning, areNormal_conjunctMeanings os⟩

theorem Grammar.Operand.isNormal_meaning (o : Operand) : o.meaning.IsNormal := by
  match o with
  | .not o => exact o.isNormal_meaning
  | .parens d => exact d.isNormal_meaning
  | .leaf l => exact l.isNormal_meaning

end

theorem Grammar.Derivation.isNormal_meaning (d : Derivation) : IsNormal d.meaning := by
  refine ⟨?_, fun e he ↦ ?_⟩
  · have hfirst : d.meaning.kinds.contains d.kinds.first = true := by
      rw [Derivation.meaning, KindSet.contains_ofList, Several.toList]
      exact decide_eq_true List.mem_cons_self
    exact KindSet.isEmpty_eq_false hfirst
  · obtain ⟨c, -, rfl⟩ := Option.map_eq_some_iff.mp he
    exact c.isNormal_meaning

/-- What is read from a text is in normal form. -/
theorem isNormal_of_parse {source : String} {q : Query} (h : parse source = .ok q) :
    IsNormal q := by
  obtain ⟨d, -, rfl⟩ := parse_eq_ok_iff_lexes.mp h
  exact d.isNormal_meaning

/-! ## The print of a query -/

/-- Parts with a token between them. -/
def joined (separator : Token) : List (List Token) → List Token
  | [] => []
  | part :: parts => part ++ parts.flatMap (separator :: ·)

/-- Texts in quotes, with bars between them. -/
def quotedList (texts : List String) : List Token :=
  joined (.symbol .bar) (texts.map fun s ↦ [.quoted s])

/-- A condition as it is written down. -/
def Condition.written : Condition → List Token
  | hasKey k => [.quoted k]
  | lacksKey k => [.symbol .bang, .quoted k]
  | equals k v => [.quoted k, .symbol .equal, .quoted v]
  | notEquals k v => [.quoted k, .symbol .notEqual, .quoted v]
  | matchesAny k ps => .quoted k :: .symbol .like :: quotedList ps
  | matchesNone k ps => .quoted k :: .symbol .notLike :: quotedList ps
  | compares k op l => [.quoted k, .symbol (.comparison op), .quoted l]
  | hasKeyLike ks => .symbol .like :: quotedList ks
  | lacksKeyLike ks => .symbol .notLike :: quotedList ks
  | hasTagLike ks ps => .symbol .like :: quotedList ks ++ .symbol .like :: quotedList ps
  | aged age l => [.word age.word, .quoted l]

namespace Expr

/-- The tokens of an expression as those of an operand: in parentheses, unless it is a leaf. -/
def enclose {α : Type} (e : Expr α) (ts : List Token) : List Token :=
  match e with
  | leaf _ => ts
  | _ => .symbol .openParen :: (ts ++ [.symbol .closeParen])

mutual

/-- An expression as it is written down. -/
def written : Expr Condition → List Token
  | all operands => joined (.keyword .and) (writtenOperands operands)
  | any operands => joined (.keyword .or) (writtenOperands operands)
  | not operand => .keyword .not :: operand.enclose operand.written
  | leaf c => c.written

/-- Operands as they are written down. -/
def writtenOperands : List (Expr Condition) → List (List Token)
  | [] => []
  | e :: es => e.enclose e.written :: writtenOperands es

end

end Expr

/-- The tokens of the print of a query. -/
def written (q : Query) : List Token :=
  joined (.symbol .comma) (q.kinds.toList.map fun k ↦ [.keyword (.kind k)]) ++
    match q.condition with
    | none => []
    | some e => .keyword .withClause :: e.written

/-- The print of a query. -/
def print (q : Query) : String := .ofList (spelled q.written)

/-! ## The print is derivable -/

theorem Grammar.separated_eq_joined {α : Type} (separator : Token) (token : α → Token)
    (items : Several α) :
    separated separator token items = joined separator (items.toList.map fun a ↦ [token a]) := by
  rw [Several.toList, List.map_cons, joined, List.flatMap_map]
  rfl

theorem exists_listTokens_eq {ss : List String} (h : ss ≠ []) :
    ∃ vs : Several Value, listTokens vs = quotedList ss ∧ Grammar.texts vs = ss := by
  obtain ⟨s, ss, rfl⟩ := List.exists_cons_of_ne_nil h
  have htoList : (⟨.quoted s, ss.map .quoted⟩ : Several Value).toList
      = (s :: ss).map .quoted := rfl
  refine ⟨⟨.quoted s, ss.map .quoted⟩, ?_, ?_⟩
  · rw [listTokens, separated_eq_joined, htoList, List.map_map, quotedList]
    rfl
  · rw [Grammar.texts, htoList, List.map_map]
    exact List.map_id _

theorem Grammar.literalText_singleton (v : Value) : literalText ⟨v, []⟩ = v.text := by
  simp [literalText, Grammar.texts, Several.toList]

theorem Condition.exists_leaf {c : Condition} (h : c.IsNormal) :
    ∃ l : Leaf, l.tokens = c.written ∧ l.meaning = c := by
  cases c with
  | hasKey k => exact ⟨.key (.quoted k), rfl, rfl⟩
  | lacksKey k => exact ⟨.lacks (.quoted k), rfl, rfl⟩
  | equals k v => exact ⟨.equals (.quoted k) (.quoted v), rfl, rfl⟩
  | notEquals k v => exact ⟨.notEquals (.quoted k) (.quoted v), rfl, rfl⟩
  | matchesAny k ps =>
    obtain ⟨vs, htokens, rfl⟩ := exists_listTokens_eq h
    exact ⟨.like (.quoted k) vs, by rw [Leaf.tokens, htokens]; rfl, rfl⟩
  | matchesNone k ps =>
    obtain ⟨vs, htokens, rfl⟩ := exists_listTokens_eq h
    exact ⟨.notLike (.quoted k) vs, by rw [Leaf.tokens, htokens]; rfl, rfl⟩
  | compares k op l =>
    refine ⟨.compares (.quoted k) op ⟨.quoted l, []⟩, rfl, ?_⟩
    rw [Leaf.meaning, literalText_singleton]
    rfl
  | hasKeyLike ks =>
    obtain ⟨vs, htokens, rfl⟩ := exists_listTokens_eq h
    exact ⟨.keysLike vs, by rw [Leaf.tokens, htokens]; rfl, rfl⟩
  | lacksKeyLike ks =>
    obtain ⟨vs, htokens, rfl⟩ := exists_listTokens_eq h
    exact ⟨.notKeysLike vs, by rw [Leaf.tokens, htokens]; rfl, rfl⟩
  | hasTagLike ks ps =>
    obtain ⟨vs, hvs, rfl⟩ := exists_listTokens_eq h.1
    obtain ⟨ws, hws, rfl⟩ := exists_listTokens_eq h.2
    exact ⟨.tagsLike vs ws, by rw [Leaf.tokens, hvs, hws]; rfl, rfl⟩
  | aged age l =>
    refine ⟨.aged age ⟨.quoted l, []⟩, rfl, ?_⟩
    rw [Leaf.meaning, literalText_singleton]
    rfl

theorem Grammar.andTokens_eq_flatMap (os : List Operand) :
    andTokens os = (os.map Operand.tokens).flatMap (.keyword .and :: ·) := by
  induction os with
  | nil => rfl
  | cons o os ih => rw [andTokens, ih]; rfl

/-- A conjunction of a single operand. -/
def Grammar.Operand.alone (o : Operand) : Conjunction := .chain o []

theorem Grammar.Operand.tokens_alone (o : Operand) : o.alone.tokens = o.tokens := by
  rw [Operand.alone, Conjunction.tokens, andTokens, List.append_nil]

theorem Grammar.orTokens_alone (os : List Operand) :
    orTokens (os.map Operand.alone) = (os.map Operand.tokens).flatMap (.keyword .or :: ·) := by
  induction os with
  | nil => rfl
  | cons o os ih => rw [List.map_cons, orTokens, ih, Operand.tokens_alone]; rfl

theorem Grammar.disjunctMeanings_alone (os : List Operand) :
    disjunctMeanings (os.map Operand.alone) = conjunctMeanings os := by
  induction os with
  | nil => rfl
  | cons o os ih => rw [List.map_cons, disjunctMeanings, ih]; rfl

namespace Expr

/-- What is derived as a disjunction is derived as an operand, in parentheses unless it is a
condition. -/
theorem exists_operand {e : Expr Condition} (h : e.IsNormal)
    (hd : ∃ d : Disjunction, d.tokens = e.written ∧ d.meaning = e) :
    ∃ o : Operand, o.tokens = e.enclose e.written ∧ o.meaning = e := by
  obtain ⟨d, htokens, hmeaning⟩ := hd
  cases e with
  | leaf c =>
    obtain ⟨l, hl, rfl⟩ := Condition.exists_leaf h
    exact ⟨.leaf l, hl, rfl⟩
  | _ => exact ⟨.parens d, by rw [Operand.tokens, htokens]; rfl, hmeaning⟩

theorem conjuncts_of_isAll {e : Expr Condition} (h : e.isAll = false) : e.conjuncts = [e] := by
  cases e with
  | all operands => cases h
  | _ => rfl

theorem disjuncts_of_isAny {e : Expr Condition} (h : e.isAny = false) : e.disjuncts = [e] := by
  cases e with
  | any operands => cases h
  | _ => rfl

mutual

theorem exists_disjunction (e : Expr Condition) (h : e.IsNormal) :
    ∃ d : Disjunction, d.tokens = e.written ∧ d.meaning = e := by
  match e with
  | leaf c =>
    obtain ⟨l, hl, rfl⟩ := Condition.exists_leaf h
    refine ⟨.chain (Operand.leaf l).alone [], ?_, rfl⟩
    rw [Disjunction.tokens, orTokens, List.append_nil, Operand.tokens_alone]
    exact hl
  | not e =>
    have he : e.IsNormal := h
    obtain ⟨o, htokens, hmeaning⟩ := exists_operand he (exists_disjunction e he)
    refine ⟨.chain (Operand.not o).alone [], ?_, ?_⟩
    · rw [Disjunction.tokens, orTokens, List.append_nil, Operand.tokens_alone, Operand.tokens,
        htokens, written]
    · exact congrArg Expr.not hmeaning
  | all operands =>
    obtain ⟨hlength, hhead, hoperands⟩ := h
    obtain ⟨os, htokens, hmeanings⟩ := exists_operands operands hoperands
    match os, operands with
    | [], _ => simp [← hmeanings, conjunctMeanings] at hlength
    | [_], _ => simp [← hmeanings, conjunctMeanings] at hlength
    | o :: o' :: os, _ =>
      -- The first operand is no conjunction, so the chain is not joined to it.
      refine ⟨.chain (.chain o (o' :: os)) [], ?_, ?_⟩
      · rw [written, ← htokens, Disjunction.tokens, orTokens, List.append_nil, Conjunction.tokens,
          andTokens_eq_flatMap]
        rfl
      · rw [← hmeanings] at hhead ⊢
        change all (o.meaning.conjuncts ++ conjunctMeanings (o' :: os)) = _
        rw [conjuncts_of_isAll (hhead o.meaning rfl)]
        rfl
  | any operands =>
    obtain ⟨hlength, hhead, hoperands⟩ := h
    obtain ⟨os, htokens, hmeanings⟩ := exists_operands operands hoperands
    match os, operands with
    | [], _ => simp [← hmeanings, conjunctMeanings] at hlength
    | [_], _ => simp [← hmeanings, conjunctMeanings] at hlength
    | o :: o' :: os, _ =>
      refine ⟨.chain o.alone ((o' :: os).map Operand.alone), ?_, ?_⟩
      · rw [written, ← htokens, Disjunction.tokens, orTokens_alone, Operand.tokens_alone]
        rfl
      · rw [← hmeanings] at hhead ⊢
        change any (o.meaning.disjuncts ++ disjunctMeanings ((o' :: os).map Operand.alone)) = _
        rw [disjuncts_of_isAny (hhead o.meaning rfl), disjunctMeanings_alone]
        rfl

theorem exists_operands (es : List (Expr Condition)) (h : AreNormal es) :
    ∃ os : List Operand, os.map Operand.tokens = writtenOperands es ∧
      conjunctMeanings os = es := by
  match es with
  | [] => exact ⟨[], rfl, rfl⟩
  | e :: es =>
    obtain ⟨o, htokens, hmeaning⟩ := exists_operand h.1 (exists_disjunction e h.1)
    obtain ⟨os, hos, hmeanings⟩ := exists_operands es h.2
    refine ⟨o :: os, ?_, ?_⟩
    · rw [List.map_cons, htokens, hos, writtenOperands]
    · rw [conjunctMeanings, hmeaning, hmeanings]

end

end Expr

theorem exists_derivation {q : Query} (h : IsNormal q) :
    ∃ d : Derivation, d.tokens = written q ∧ d.meaning = q := by
  obtain ⟨kinds, condition⟩ := q
  obtain ⟨hkinds, hcondition⟩ := h
  obtain ⟨k, ks, hlist⟩ : ∃ k ks, kinds.toList = k :: ks := by
    refine List.exists_cons_of_ne_nil fun hnil ↦ ?_
    have hempty := kinds.ofList_toList
    rw [hnil] at hempty
    rw [← hempty] at hkinds
    cases hkinds
  have htokens : Derivation.kindTokens ⟨k, ks⟩
      = joined (.symbol .comma) (kinds.toList.map fun k ↦ [.keyword (.kind k)]) := by
    rw [Derivation.kindTokens, separated_eq_joined, hlist]
    rfl
  have hset : KindSet.ofList (k :: ks) = kinds := by rw [← hlist, KindSet.ofList_toList]
  cases condition with
  | none =>
    refine ⟨⟨⟨k, ks⟩, none⟩, ?_, congrArg (Query.mk · none) hset⟩
    rw [Derivation.tokens, written, htokens]
    rfl
  | some e =>
    obtain ⟨d, hd, rfl⟩ := Expr.exists_disjunction e (hcondition e rfl)
    refine ⟨⟨⟨k, ks⟩, some d⟩, ?_, congrArg (Query.mk · (some d.meaning)) hset⟩
    rw [Derivation.tokens, written, htokens]
    exact congrArg (fun ts ↦ _ ++ .keyword .withClause :: ts) hd

/-! ## The print is a text -/

theorem joined_isWritable {separator : Token} {parts : List (List Token)}
    (hs : separator.IsWritable) (h : ∀ part ∈ parts, ∀ t ∈ part, t.IsWritable) :
    ∀ t ∈ joined separator parts, t.IsWritable := by
  cases parts with
  | nil => exact nofun
  | cons part parts =>
    intro t ht
    rw [joined, List.mem_append, List.mem_flatMap] at ht
    rcases ht with ht | ⟨part', hpart', ht⟩
    · exact h part List.mem_cons_self t ht
    · rcases List.mem_cons.mp ht with rfl | ht
      · exact hs
      · exact h part' (List.mem_cons_of_mem part hpart') t ht

theorem quotedList_isWritable (ss : List String) : ∀ t ∈ quotedList ss, t.IsWritable := by
  refine joined_isWritable trivial fun part hpart t ht ↦ ?_
  obtain ⟨s, -, rfl⟩ := List.mem_map.mp hpart
  rw [List.mem_singleton.mp ht]
  trivial

/-- The words that open a condition on the age are the only ones printed. -/
theorem Condition.written_isWritable (c : Condition) : ∀ t ∈ c.written, t.IsWritable := by
  have hword : ∀ age : Age, (Token.word age.word).IsWritable := by
    intro age
    cases age <;> decide +kernel
  have hlist := quotedList_isWritable
  cases c <;> simp only [written, List.mem_cons, List.not_mem_nil, or_false, List.mem_append,
    List.cons_append]
  all_goals grind [Token.IsWritable]

namespace Expr

theorem enclose_isWritable (e : Expr Condition) {ts : List Token} (h : ∀ t ∈ ts, t.IsWritable) :
    ∀ t ∈ e.enclose ts, t.IsWritable := by
  intro t ht
  unfold enclose at ht
  split at ht
  · exact h t ht
  · rw [List.mem_cons, List.mem_append, List.mem_singleton] at ht
    rcases ht with rfl | ht | rfl
    · trivial
    · exact h t ht
    · trivial

mutual

theorem written_isWritable (e : Expr Condition) : ∀ t ∈ e.written, t.IsWritable := by
  match e with
  | all operands | any operands =>
    exact joined_isWritable trivial (writtenOperands_isWritable operands)
  | not e =>
    intro t ht
    rcases List.mem_cons.mp ht with rfl | ht
    · trivial
    · exact e.enclose_isWritable e.written_isWritable t ht
  | leaf c => exact c.written_isWritable

theorem writtenOperands_isWritable (es : List (Expr Condition)) :
    ∀ part ∈ writtenOperands es, ∀ t ∈ part, t.IsWritable := by
  match es with
  | [] => exact nofun
  | e :: es =>
    intro part hpart
    rcases List.mem_cons.mp hpart with rfl | hpart
    · exact e.enclose_isWritable e.written_isWritable
    · exact writtenOperands_isWritable es part hpart

end

end Expr

theorem written_isWritable (q : Query) : ∀ t ∈ written q, t.IsWritable := by
  have hkinds : ∀ t ∈ joined (.symbol .comma) (q.kinds.toList.map fun k ↦ [.keyword (.kind k)]),
      t.IsWritable := by
    refine joined_isWritable trivial fun part hpart t ht ↦ ?_
    obtain ⟨k, -, rfl⟩ := List.mem_map.mp hpart
    rw [List.mem_singleton.mp ht]
    trivial
  intro t ht
  rcases List.mem_append.mp ht with ht | ht
  · exact hkinds t ht
  · cases hq : q.condition with
    | none =>
      rw [hq] at ht
      cases ht
    | some e =>
      rw [hq] at ht
      rcases List.mem_cons.mp ht with rfl | ht
      · trivial
      · exact e.written_isWritable t ht

/-- A text that is the tokens of the print of a query in normal form means that query, wherever the
blanks between the tokens are. -/
theorem parse_of_lexes_written {source : String} {q : Query} (h : IsNormal q)
    (hsource : Lexes source.toList (written q)) : parse source = .ok q := by
  obtain ⟨d, htokens, hmeaning⟩ := exists_derivation h
  exact parse_eq_ok_iff_lexes.mpr ⟨d, htokens ▸ hsource, hmeaning⟩

theorem parse_print_of_isNormal {q : Query} (h : IsNormal q) : parse (print q) = .ok q := by
  refine parse_of_lexes_written h ?_
  rw [print, String.toList_ofList]
  exact lexes_spelled (written_isWritable q)

/-- **Printing and reading are inverse.** What is read from a text is in normal form, a query in
normal form is read from its print, and so printing what was read changes nothing. -/
theorem parse_print_inverse :
    (∀ source q, parse source = .ok q → IsNormal q) ∧
    (∀ q, IsNormal q → parse (print q) = .ok q) ∧
    ∀ source q, parse source = .ok q → parse (print q) = .ok q :=
  ⟨fun _ _ h ↦ isNormal_of_parse h, fun _ h ↦ parse_print_of_isNormal h,
    fun _ _ h ↦ parse_print_of_isNormal (isNormal_of_parse h)⟩

/-- The empty text, keywords, quotes, escapes and line breaks as keys, patterns and literals. -/
theorem parse_print_awkward_texts :
    ∃ q, q = ⟨⟨true, false, true⟩, some (.any [.not (.not (.leaf (.hasKey ""))),
        .all [.leaf (.aged .older "or\"\\\n"), .leaf (.matchesAny "not" ["", "|"])]])⟩ ∧
      print q = "nodes , relations with ( not ( not \"\" ) ) or " ++
        "( older \"or\\\"\\\\\n\" and \"not\" ~ \"\" | \"|\" )" ∧
      IsNormal q ∧ parse (print q) = .ok q := by
  have hnormal : IsNormal ⟨⟨true, false, true⟩, some (.any [.not (.not (.leaf (.hasKey ""))),
      .all [.leaf (.aged .older "or\"\\\n"), .leaf (.matchesAny "not" ["", "|"])]])⟩ := by
    refine ⟨rfl, ?_⟩
    rintro e ⟨⟩
    simp [Expr.IsNormal, Expr.AreNormal, Expr.isAll, Expr.isAny, Condition.IsNormal]
  exact ⟨_, rfl, by decide +kernel, hnormal, parse_print_inverse.2.1 _ hnormal⟩

end TagQuery.Query
