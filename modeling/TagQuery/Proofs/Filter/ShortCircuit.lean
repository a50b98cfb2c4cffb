import TagQuery.Proofs.Filter.Compilation
import TagQuery.Proofs.Query.Derivation

/-!
# Conditions as trees of binary connectives

The grammar joins two operands at a time, and so does the rule of evaluation: a conjunction looks at
its right operand only after the left one turned out true, a disjunction only after it turned out
false, and a negation looks at what its operand looks at. A compiled condition has chains of any
length instead. Here the rule is stated for the trees of the grammar, with no reference to chains,
and filters are shown to follow it, in their answers and in what they look at
(`examine_iff_answers`).

## Where chains come from

`Binary.flatten` joins expressions from the leaves up, as a query is read. A chain thus grows at its
right end only, and is looked at from its left end, so that what was looked at for the chain so far
is just what was looked at for the left operand. Nothing else is needed: the right operand stays one
operand of the chain, be it a chain itself or not.

The rule is a relation and not a function, so that it cannot share the evaluator's idea of when to
stop. That it determines an answer, and gives one at all, is part of what is shown.
-/

namespace TagQuery

open Query.Grammar

namespace Query

/-- An expression in which every connective joins two operands. -/
inductive Binary (α : Type) where
  | and (left right : Binary α)
  | or (left right : Binary α)
  | not (operand : Binary α)
  | leaf (leaf : α)

namespace Binary

variable {α : Type}

/-- The leaves, from left to right. -/
def leaves : Binary α → List α
  | and l r | or l r => l.leaves ++ r.leaves
  | not x => x.leaves
  | leaf a => [a]

/-- The expression with chains that the binary connectives build up. -/
def flatten : Binary α → Expr α
  | and l r => l.flatten.and r.flatten
  | or l r => l.flatten.or r.flatten
  | not x => .not x.flatten
  | leaf a => .leaf a

theorem leaves_flatten (x : Binary α) : x.flatten.leaves = x.leaves := by
  induction x with
  | and l r ihl ihr =>
    rw [flatten, Expr.and_eq_all, Expr.leaves, Expr.leavesOfList_append,
      Expr.leavesOfList_conjuncts, ihl, Expr.leavesOfList, Expr.leavesOfList, List.append_nil, ihr,
      leaves]
  | or l r ihl ihr =>
    rw [flatten, Expr.or_eq_any, Expr.leaves, Expr.leavesOfList_append,
      Expr.leavesOfList_disjuncts, ihl, Expr.leavesOfList, Expr.leavesOfList, List.append_nil, ihr,
      leaves]
  | not x ih => rw [flatten, Expr.leaves, ih, leaves]
  | leaf a => rfl

/-! ## The rule of short circuit -/

/-- What evaluating an expression may lead to, given what its leaves may lead to. -/
inductive Evaluates (answers : α → Traced Bool → Prop) : Binary α → Traced Bool → Prop where
  | leaf {a t} (h : answers a t) : Evaluates answers (leaf a) t
  | not {x b ls} (h : Evaluates answers x ⟨b, ls⟩) : Evaluates answers (not x) ⟨!b, ls⟩
  /-- The right operand is not looked at. -/
  | andFalse {l r ls} (h : Evaluates answers l ⟨false, ls⟩) :
      Evaluates answers (and l r) ⟨false, ls⟩
  | andTrue {l r b ls ls'} (h : Evaluates answers l ⟨true, ls⟩)
      (h' : Evaluates answers r ⟨b, ls'⟩) : Evaluates answers (and l r) ⟨b, ls ++ ls'⟩
  /-- The right operand is not looked at. -/
  | orTrue {l r ls} (h : Evaluates answers l ⟨true, ls⟩) : Evaluates answers (or l r) ⟨true, ls⟩
  | orFalse {l r b ls ls'} (h : Evaluates answers l ⟨false, ls⟩)
      (h' : Evaluates answers r ⟨b, ls'⟩) : Evaluates answers (or l r) ⟨b, ls ++ ls'⟩

variable {answers : α → Traced Bool → Prop} {f : α → Traced Bool}

theorem Evaluates.and {l r : Binary α} {s t : Traced Bool} (hl : Evaluates answers l s)
    (hr : Evaluates answers r t) : Evaluates answers (l.and r) (s.and t) := by
  obtain ⟨value, lookups⟩ := s
  cases value with
  | false => exact .andFalse hl
  | true => exact .andTrue hl hr

theorem Evaluates.or {l r : Binary α} {s t : Traced Bool} (hl : Evaluates answers l s)
    (hr : Evaluates answers r t) : Evaluates answers (l.or r) (s.or t) := by
  obtain ⟨value, lookups⟩ := s
  cases value with
  | false => exact .orFalse hl hr
  | true => exact .orTrue hl

/-- Where every leaf leads to one answer, an expression does, and it is that of the chains. -/
theorem evaluates_iff {x : Binary α} (h : ∀ a ∈ x.leaves, ∀ t, answers a t ↔ f a = t)
    (t : Traced Bool) : x.Evaluates answers t ↔ x.flatten.evaluate f = t := by
  constructor
  · -- no rule looks further than the evaluator
    intro hx
    induction hx with
    | leaf ha => exact (h _ List.mem_cons_self _).mp ha
    | not _ ih => rw [flatten, Expr.evaluate, ih h]; rfl
    | andFalse _ ih =>
      rw [flatten, Expr.evaluate_and, ih (List.forall_mem_append.mp h).1]
      rfl
    | andTrue _ _ ihl ihr =>
      obtain ⟨hl, hr⟩ := List.forall_mem_append.mp h
      rw [flatten, Expr.evaluate_and, ihl hl, ihr hr]
      rfl
    | orTrue _ ih =>
      rw [flatten, Expr.evaluate_or, ih (List.forall_mem_append.mp h).1]
      rfl
    | orFalse _ _ ihl ihr =>
      obtain ⟨hl, hr⟩ := List.forall_mem_append.mp h
      rw [flatten, Expr.evaluate_or, ihl hl, ihr hr]
      rfl
  · -- and some rule always applies
    rintro rfl
    induction x with
    | and l r ihl ihr =>
      obtain ⟨hl, hr⟩ := List.forall_mem_append.mp h
      rw [flatten, Expr.evaluate_and]
      exact (ihl hl).and (ihr hr)
    | or l r ihl ihr =>
      obtain ⟨hl, hr⟩ := List.forall_mem_append.mp h
      rw [flatten, Expr.evaluate_or]
      exact (ihl hl).or (ihr hr)
    | not x ih => exact .not (ih h)
    | leaf a => exact .leaf ((h a List.mem_cons_self _).mpr rfl)

end Binary

/-! ## The trees of the grammar -/

namespace Grammar

mutual

/-- The tree of a disjunction, whose connectives are joined from the left. -/
def Disjunction.tree : Disjunction → Binary Condition
  | .chain first more => orTree first.tree more

/-- A tree joined to those of conjunctions, each after `or`. -/
def orTree (left : Binary Condition) : List Conjunction → Binary Condition
  | [] => left
  | c :: cs => orTree (.or left c.tree) cs

/-- The tree of a conjunction. -/
def Conjunction.tree : Conjunction → Binary Condition
  | .chain first more => andTree first.tree more

/-- A tree joined to those of operands, each after `and`. -/
def andTree (left : Binary Condition) : List Operand → Binary Condition
  | [] => left
  | o :: os => andTree (.and left o.tree) os

/-- The tree of an operand. -/
def Operand.tree : Operand → Binary Condition
  | .not o => .not o.tree
  | .parens d => d.tree
  | .leaf l => .leaf l.meaning

end

mutual

/-- What a disjunction denotes is its tree with chains in it. -/
theorem Disjunction.flatten_tree (d : Disjunction) : d.tree.flatten = d.meaning := by
  obtain ⟨first, more⟩ := d
  rw [Disjunction.tree, flatten_orTree, Conjunction.flatten_tree first, Expr.foldl_or,
    Disjunction.meaning]

theorem flatten_orTree (left : Binary Condition) (cs : List Conjunction) :
    (orTree left cs).flatten = (disjunctMeanings cs).foldl Expr.or left.flatten := by
  cases cs with
  | nil => rfl
  | cons c cs =>
    rw [orTree, flatten_orTree, Binary.flatten, Conjunction.flatten_tree c, disjunctMeanings,
      List.foldl_cons]

theorem Conjunction.flatten_tree (c : Conjunction) : c.tree.flatten = c.meaning := by
  obtain ⟨first, more⟩ := c
  rw [Conjunction.tree, flatten_andTree, Operand.flatten_tree first, Expr.foldl_and,
    Conjunction.meaning]

theorem flatten_andTree (left : Binary Condition) (os : List Operand) :
    (andTree left os).flatten = (conjunctMeanings os).foldl Expr.and left.flatten := by
  cases os with
  | nil => rfl
  | cons o os =>
    rw [andTree, flatten_andTree, Binary.flatten, Operand.flatten_tree o, conjunctMeanings,
      List.foldl_cons]

theorem Operand.flatten_tree (o : Operand) : o.tree.flatten = o.meaning := by
  cases o with
  | not o => rw [Operand.tree, Binary.flatten, Operand.flatten_tree o, Operand.meaning]
  | parens d => exact Disjunction.flatten_tree d
  | leaf l => rfl

end

end Grammar

/-! ## Filters -/

section Rule

variable {ε : Type} [ElementView ε]

/-- What asking a condition about an element leads to: the answer of its predicate. -/
def Condition.Answers (units : UnitTable) (today : Date) (e : ε) (c : Condition)
    (t : Traced Bool) : Prop :=
  ∃ p, Predicate.ofCondition units c = .ok p ∧ p.evaluate units today e = t

/-- What asking a query about an element leads to. -/
inductive Grammar.Derivation.Answers (units : UnitTable) (today : Date) (e : ε) (d : Derivation) :
    Traced Bool → Prop where
  /-- An element of another kind is rejected unseen. -/
  | unselected (h : ElementView.kind e ∉ d.kinds.toList) : Answers units today e d ⟨false, []⟩
  | unconditional (h : ElementView.kind e ∈ d.kinds.toList) (hc : d.condition = none) :
      Answers units today e d ⟨true, []⟩
  | conditional {c t} (h : ElementView.kind e ∈ d.kinds.toList) (hc : d.condition = some c)
      (ht : c.tree.Evaluates (Condition.Answers units today e) t) : Answers units today e d t

/-- A compiled condition is looked through as its tree is. -/
theorem evaluates_tree_iff {units : UnitTable} {d : Grammar.Disjunction} {c : Expr Predicate}
    (hc : d.meaning.traverse (Predicate.ofCondition units) = .ok c) (today : Date) (e : ε)
    (t : Traced Bool) :
    d.tree.Evaluates (Condition.Answers units today e) t ↔
      c.evaluate (Predicate.evaluate units today e) = t := by
  have hcompiles := (Expr.exists_traverse_iff _ _).mp ⟨c, hc⟩
  rw [← d.flatten_tree, Binary.leaves_flatten] at hcompiles
  rw [Expr.evaluate_of_compiles hc, ← d.flatten_tree]
  refine Binary.evaluates_iff (fun a ha t ↦ ?_) t
  obtain ⟨p, hp⟩ := hcompiles a ha
  rw [Condition.answer_eq hp]
  constructor
  · rintro ⟨p', hp', rfl⟩
    rw [Except.ok.inj (hp.symm.trans hp')]
  · intro h
    exact ⟨p, hp, h⟩

theorem answers_iff {units : UnitTable} {source : String} {d : Grammar.Derivation} {f : Filter}
    (hf : Filter.ofQuery units source d.meaning = .ok f) (today : Date) (e : ε) (t : Traced Bool) :
    d.Answers units today e t ↔ f.examine today e = t := by
  obtain ⟨ks, c⟩ := d
  by_cases hkind : ElementView.kind e ∈ ks.toList
  · have hcontains : (KindSet.ofList ks.toList).contains (ElementView.kind e) = true := by
      rw [KindSet.contains_ofList, decide_eq_true hkind]
    cases c with
    | none =>
      obtain rfl := Filter.ofQuery_none_eq_ok_iff.mp hf
      rw [Filter.examine, if_pos hcontains]
      constructor
      · rintro (hkind' | _ | ⟨_, ⟨⟩, _⟩)
        · exact absurd hkind hkind'
        · rfl
      · rintro rfl
        exact .unconditional hkind rfl
    | some c =>
      obtain ⟨p, hp, rfl⟩ := Filter.ofQuery_some_eq_ok_iff.mp hf
      rw [Filter.examine, if_pos hcontains, ← evaluates_tree_iff hp]
      constructor
      · rintro (hkind' | ⟨_, ⟨⟩⟩ | ⟨_, hc, ht⟩)
        · exact absurd hkind hkind'
        · rwa [Option.some.inj hc]
      · intro ht
        exact .conditional hkind rfl ht
  · have hcontains : ¬ (KindSet.ofList ks.toList).contains (ElementView.kind e) = true := by
      rw [KindSet.contains_ofList, decide_eq_false hkind]
      exact nofun
    have hkinds : f.kinds = KindSet.ofList ks.toList := by
      obtain ⟨c', -, rfl⟩ := map_eq_ok_iff.mp hf
      rfl
    rw [Filter.examine, hkinds, if_neg hcontains]
    constructor
    · rintro (_ | ⟨hkind', _⟩ | ⟨hkind', _, _⟩)
      · rfl
      · exact absurd hkind' hkind
      · exact absurd hkind' hkind
    · rintro rfl
      exact .unselected hkind

end Rule

end Query

open Query

/-- **Chains are looked through like binary connectives.** The text of a filter has one derivation,
and what the rule of short circuit says of its trees is what the filter answers, after looking at
the same tags in the same order. Joining any two expressions, chains or not, comes to the connective
between them. -/
theorem Filter.examine_iff_answers {units : UnitTable} {source : String} {f : Filter}
    (h : ofSource units source = .ok f) :
    (∃ d : Derivation, Lexes source.toList d.tokens ∧
      (∀ d' : Derivation, Lexes source.toList d'.tokens → d' = d) ∧
      ∀ {ε : Type} [ElementView ε] (today : Date) (e : ε) (t : Traced Bool),
        d.Answers units today e t ↔ f.examine today e = t) ∧
    ∀ {α : Type} (answer : α → Traced Bool) (a b : Expr α) (t : Traced Bool),
      ((Binary.and (.leaf a) (.leaf b)).Evaluates (fun x t ↦ x.evaluate answer = t) t ↔
        (a.and b).evaluate answer = t) ∧
      ((Binary.or (.leaf a) (.leaf b)).Evaluates (fun x t ↦ x.evaluate answer = t) t ↔
        (a.or b).evaluate answer = t) := by
  obtain ⟨q, hq, hf⟩ := ofSource_eq_ok_iff.mp h
  obtain ⟨d, hd, rfl⟩ := parse_eq_ok_iff_lexes.mp hq
  refine ⟨⟨d, hd, fun d' hd' ↦ ?_, fun today e t ↦ answers_iff hf today e t⟩,
    fun answer a b t ↦ ⟨?_, ?_⟩⟩
  · obtain ⟨placed, hplaced, htokens⟩ := lexes_iff_exists_tokens.mp hd
    obtain ⟨placed', hplaced', htokens'⟩ := lexes_iff_exists_tokens.mp hd'
    obtain rfl := Except.ok.inj (hplaced.symm.trans hplaced')
    exact Derivation.tokens_injective (htokens'.symm.trans htokens)
  · rw [Binary.evaluates_iff fun _ _ _ ↦ Iff.rfl, Binary.flatten, Expr.evaluate_and,
      Expr.evaluate_and]
    rfl
  · rw [Binary.evaluates_iff fun _ _ _ ↦ Iff.rfl, Binary.flatten, Expr.evaluate_or,
      Expr.evaluate_or]
    rfl

/-- The chain of three that parentheses and a connective make is looked through up to its second
operand, as the tree is up to the right operand of its left one. -/
theorem Filter.examine_iff_answers_chain :
    let source := "nodes with ( shop or name ) or building"
    let named : Element := ⟨.node, 1, .ofList [("building", "yes"), ("name", "Bob")], none⟩
    ∃ f, ofSource .standard source = .ok f ∧
      (f.condition.map fun c ↦ c.leaves.length) = some 3 ∧
      f.examine .first named = ⟨true, [.key "shop", .key "name"]⟩ ∧
      ∃ d : Derivation, Lexes source.toList d.tokens ∧
        d.Answers .standard .first named ⟨true, [.key "shop", .key "name"]⟩ := by
  intro source named
  let shop : Operand := .leaf (.key (.word "shop"))
  let name : Operand := .leaf (.key (.word "name"))
  let building : Operand := .leaf (.key (.word "building"))
  let either : Disjunction := .chain (.chain shop []) [.chain name []]
  let d : Derivation :=
    ⟨⟨.node, []⟩, some (.chain (.chain (.parens either) []) [.chain building []])⟩
  have hsource : source.toList = spelled d.tokens := by decide +kernel
  have hlexes : Lexes source.toList d.tokens := hsource ▸ lexes_spelled (by decide +kernel)
  have hparse : parse source = .ok d.meaning := parse_eq_ok_iff_lexes.mpr ⟨d, hlexes, rfl⟩
  let f : Filter := ⟨source, .ofList [.node],
    some (.any [.leaf (.hasKey "shop"), .leaf (.hasKey "name"), .leaf (.hasKey "building")]),
    .standard⟩
  have hf : ofSource .standard source = .ok f := ofSource_eq_ok_iff.mpr ⟨d.meaning, hparse, rfl⟩
  have hexamine : f.examine .first named = ⟨true, [.key "shop", .key "name"]⟩ := by rfl
  obtain ⟨⟨d', hd', -, hanswers⟩, -⟩ := examine_iff_answers hf
  exact ⟨f, hf, rfl, hexamine, d', hd', (hanswers .first named _).mpr hexamine⟩

end TagQuery
