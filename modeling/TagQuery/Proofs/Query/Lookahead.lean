import TagQuery.Proofs.Query.Derivation

/-!
# What a reader looks at

A reader of tokens goes from left to right and decides by the next token alone. So its outcome is
settled by the tokens that it takes and the first one that it leaves: whatever comes after that may
be replaced, and the reader takes the same tokens, finds the same, and leaves what is there instead
(`PredictiveAt`). That holds of faults as well, where the first token that is left is the one which
the reader could not go on with.

The words `older` and `newer` seem to need two tokens, but the second one is either taken or the
first one left. Each way to put readers together keeps the property, so it is found by going through
the definitions.

The depth to which expressions are nested is bounded by a count. Reading depends on it only as long
as it is too small for the tokens that are there (`Reader.settled`).
-/

namespace TagQuery.Query

namespace Reader

variable {α β : Type}

/-! ## Outcomes -/

/-- The tokens that are left, where reading has come to an end or to a fault. -/
def remaining : Except Fault (α × List Token) → List Token
  | .ok (_, ts) => ts
  | .error f => f.remaining

/-- The same outcome with other tokens left. -/
def withRemaining (outcome : Except Fault (α × List Token)) (ts : List Token) :
    Except Fault (α × List Token) :=
  match outcome with
  | .ok (a, _) => .ok (a, ts)
  | .error f => .error ⟨f.expected, ts⟩

theorem remaining_map (f : α → β) (outcome : Except Fault (α × List Token)) :
    remaining (outcome.map fun (a, ts) ↦ (f a, ts)) = remaining outcome := by
  cases outcome <;> rfl

theorem withRemaining_map (f : α → β) (outcome : Except Fault (α × List Token)) (ts : List Token) :
    (withRemaining outcome ts).map (fun (a, ts) ↦ (f a, ts)) =
      withRemaining (outcome.map fun (a, ts) ↦ (f a, ts)) ts := by
  cases outcome <;> rfl

/-! ## Looking one token ahead -/

/-- Whether a reader leaves an end of the tokens, and looks at no more of it than the first one. -/
structure PredictiveAt (r : Reader α) (ts : List Token) : Prop where
  suffix : remaining (r ts) <:+ ts
  apply_append : ∀ taken rest, ts = taken ++ remaining (r ts) →
    rest.head? = (remaining (r ts)).head? → r (taken ++ rest) = withRemaining (r ts) rest

theorem head?_append_congr {taken rest rest' : List Token} (h : rest.head? = rest'.head?) :
    (taken ++ rest).head? = (taken ++ rest').head? := by
  rw [List.head?_append, List.head?_append, h]

namespace PredictiveAt

variable {r r' : Reader α} {t : Token} {ts : List Token}

/-- A reader that takes nothing. -/
theorem of_remaining (h : remaining (r ts) = ts)
    (hcongr : ∀ us : List Token, us.head? = ts.head? → r us = withRemaining (r ts) us) :
    PredictiveAt r ts := by
  refine ⟨h.symm ▸ List.suffix_rfl, fun taken rest htaken hrest ↦ ?_⟩
  rw [h] at htaken hrest
  obtain rfl : taken = [] := List.self_eq_append_left.mp htaken
  exact hcongr rest hrest

theorem pure (a : α) (ts : List Token) : PredictiveAt (fun ts ↦ .ok (a, ts)) ts :=
  of_remaining rfl fun _ _ ↦ rfl

theorem fail (expected : Expectation) (ts : List Token) :
    PredictiveAt (fun ts ↦ (.error ⟨expected, ts⟩ : Except Fault (α × List Token))) ts :=
  of_remaining rfl fun _ _ ↦ rfl

/-- A reader that takes a token and goes on with the rest. -/
theorem cons (h : PredictiveAt (fun ts ↦ r (t :: ts)) ts) : PredictiveAt r (t :: ts) := by
  refine ⟨h.suffix.trans (List.suffix_cons t ts), fun taken rest htaken hrest ↦ ?_⟩
  cases taken with
  | nil =>
    -- what is left would be longer than what the token was taken off
    have hlength := congrArg List.length htaken
    have hle := h.suffix.length_le
    rw [List.nil_append, List.length_cons] at hlength
    omega
  | cons u taken =>
    obtain ⟨rfl, hts⟩ := List.cons_eq_cons.mp htaken
    exact h.apply_append taken rest hts hrest

/-- A reader that at these tokens is another one, as the first of them shows. -/
theorem congr (h : PredictiveAt r ts)
    (heq : ∀ us : List Token, us.head? = ts.head? → r' us = r us) : PredictiveAt r' ts := by
  have hts := heq ts rfl
  refine ⟨hts ▸ h.suffix, fun taken rest htaken hrest ↦ ?_⟩
  rw [hts] at htaken hrest ⊢
  rw [heq _ (by rw [head?_append_congr hrest, ← htaken]), h.apply_append taken rest htaken hrest]

/-- A reader that looks for one token and otherwise is another reader. -/
theorem of_head (t : Token) (hhead : ∀ us, PredictiveAt r' (t :: us)) (h : PredictiveAt r ts)
    (heq : ∀ us : List Token, us.head? ≠ some t → r' us = r us) : PredictiveAt r' ts := by
  by_cases ht : ts.head? = some t
  · obtain ⟨us, rfl⟩ := List.head?_eq_some_iff.mp ht
    exact hhead us
  · exact h.congr fun us hus ↦ heq us (hus ▸ ht)

theorem map {f : α → β} (h : PredictiveAt r ts) :
    PredictiveAt (fun ts ↦ (r ts).map fun (a, ts) ↦ (f a, ts)) ts := by
  refine ⟨?_, fun taken rest htaken hrest ↦ ?_⟩
  · dsimp only
    rw [remaining_map]
    exact h.suffix
  · rw [remaining_map] at htaken hrest
    rw [h.apply_append taken rest htaken hrest, withRemaining_map]

/-- A reader that goes on with what another one has left. -/
theorem bind {k : α × List Token → Except Fault (β × List Token)} (h : PredictiveAt r ts)
    (hk : ∀ a us, r ts = .ok (a, us) → PredictiveAt (fun us ↦ k (a, us)) us) :
    PredictiveAt (fun ts ↦ r ts >>= k) ts := by
  cases hr : r ts with
  | error f =>
    have hfault : (r ts >>= k) = .error f := by rw [hr]; rfl
    have hleft : remaining (r ts) = f.remaining := by rw [hr]; rfl
    have hsuffix := h.suffix
    rw [hleft] at hsuffix
    refine ⟨?_, fun taken rest htaken hrest ↦ ?_⟩
    · rw [hfault]
      exact hsuffix
    · rw [hfault] at htaken hrest ⊢
      rw [h.apply_append taken rest (hleft ▸ htaken) (hleft ▸ hrest), hr]
      rfl
  | ok found =>
    obtain ⟨a, us⟩ := found
    have hgoesOn : (r ts >>= k) = k (a, us) := by rw [hr]; rfl
    have hleft : remaining (r ts) = us := by rw [hr]; rfl
    obtain ⟨before, hbefore⟩ := h.suffix
    obtain ⟨between, hbetween⟩ := (hk a us hr).suffix
    rw [hleft] at hbefore
    refine ⟨?_, fun taken rest htaken hrest ↦ ?_⟩
    · rw [hgoesOn]
      exact (hk a us hr).suffix.trans ⟨before, hbefore⟩
    · rw [hgoesOn] at htaken hrest ⊢
      -- the second reader has taken the last of the tokens that both have taken
      have hboth : before ++ between ++ remaining (k (a, us)) = taken ++ remaining (k (a, us)) := by
        rw [List.append_assoc, hbetween, hbefore]
        exact htaken
      obtain rfl := List.append_cancel_right hboth
      have hhead : (between ++ rest).head? = us.head? := by
        rw [← hbetween]
        exact head?_append_congr hrest
      have hfirst := h.apply_append before (between ++ rest) (hleft.symm ▸ hbefore.symm)
        (hleft.symm ▸ hhead)
      rw [List.append_assoc, hfirst, hr]
      exact (hk a us hr).apply_append between rest hbetween.symm hrest

end PredictiveAt

/-! ## Conditions -/

theorem predictiveAt_text (expected : Expectation) (ts : List Token) :
    PredictiveAt (text expected) ts := by
  match ts with
  | .word s :: ts | .quoted s :: ts => exact .cons (.pure s ts)
  | [] | .keyword _ :: _ | .symbol _ :: _ =>
    exact (PredictiveAt.fail expected _).congr fun us hus ↦ by cases us <;> cases hus; rfl

theorem predictiveAt_morePatterns (ts : List Token) : PredictiveAt morePatterns ts := by
  match ts with
  | .symbol .bar :: .word s :: ts | .symbol .bar :: .quoted s :: ts =>
    exact .cons (.cons (predictiveAt_morePatterns ts).map)
  | .symbol .bar :: [] | .symbol .bar :: .keyword _ :: _ | .symbol .bar :: .symbol _ :: _ =>
    exact .cons ((PredictiveAt.fail .pattern _).congr fun us hus ↦ by cases us <;> cases hus; rfl)
  | [] | .keyword _ :: _ | .word _ :: _ | .quoted _ :: _ | .symbol .equal :: _
  | .symbol .notEqual :: _ | .symbol .like :: _ | .symbol .notLike :: _
  | .symbol (.comparison _) :: _ | .symbol .bang :: _ | .symbol .openParen :: _
  | .symbol .closeParen :: _ | .symbol .comma :: _ =>
    exact (PredictiveAt.pure [] _).congr fun us hus ↦ by cases us <;> cases hus; rfl

theorem predictiveAt_patterns (ts : List Token) : PredictiveAt patterns ts :=
  (predictiveAt_text .pattern ts).bind fun s us _ ↦
    (predictiveAt_morePatterns us).bind fun ss us _ ↦ .pure (s :: ss) us

theorem predictiveAt_texts (ts : List Token) : PredictiveAt (fun ts ↦ .ok (texts ts)) ts := by
  match ts with
  | .word s :: ts | .quoted s :: ts => exact .cons ((predictiveAt_texts ts).map (f := (s :: ·)))
  | [] | .keyword _ :: _ | .symbol _ :: _ =>
    exact (PredictiveAt.pure [] _).congr fun us hus ↦ by cases us <;> cases hus; rfl

theorem predictiveAt_literal (ts : List Token) : PredictiveAt literal ts :=
  (predictiveAt_text .numberOrDate ts).bind fun s us _ ↦
    (predictiveAt_texts us).map (f := fun ss ↦ " ".intercalate (s :: ss))

theorem predictiveAt_aboutKey (key : String) (ts : List Token) :
    PredictiveAt (aboutKey key) ts := by
  match ts with
  | .symbol (.comparison op) :: ts => exact .cons (predictiveAt_literal ts).map
  | .symbol .equal :: ts | .symbol .notEqual :: ts => exact .cons (predictiveAt_text .value ts).map
  | .symbol .like :: ts | .symbol .notLike :: ts => exact .cons (predictiveAt_patterns ts).map
  | [] | .keyword _ :: _ | .word _ :: _ | .quoted _ :: _ | .symbol .bang :: _
  | .symbol .openParen :: _ | .symbol .closeParen :: _ | .symbol .comma :: _ | .symbol .bar :: _ =>
    exact (PredictiveAt.pure (.hasKey key) _).congr fun us hus ↦ by cases us <;> cases hus; rfl

theorem aboutKeysLike_eq_self (keyPatterns : List String) {ts : List Token}
    (h : ts.head? ≠ some (.symbol .like)) :
    aboutKeysLike keyPatterns ts = .ok (.hasKeyLike keyPatterns, ts) := by
  unfold aboutKeysLike
  split
  · exact absurd rfl h
  · rfl

theorem predictiveAt_aboutKeysLike (keyPatterns : List String) (ts : List Token) :
    PredictiveAt (aboutKeysLike keyPatterns) ts :=
  .of_head (.symbol .like) (fun us ↦ .cons (predictiveAt_patterns us).map)
    (.pure (.hasKeyLike keyPatterns) ts) fun _ hus ↦ aboutKeysLike_eq_self keyPatterns hus

theorem predictiveAt_condition (ts : List Token) : PredictiveAt condition ts := by
  match ts with
  | .symbol .bang :: ts => exact .cons (predictiveAt_text .key ts).map
  | .symbol .like :: ts =>
    exact .cons ((predictiveAt_patterns ts).bind fun ps us _ ↦ predictiveAt_aboutKeysLike ps us)
  | .symbol .notLike :: ts => exact .cons (predictiveAt_patterns ts).map
  | .word w :: ts =>
    -- the token after the word is the next one from here on
    have hage : ∀ us : List Token, us.head? = ts.head? → age? w us = age? w ts := by
      intro us hus
      rw [age?, age?, hus]
    cases h : age? w ts with
    | some age =>
      refine .cons (((predictiveAt_literal ts).map (f := .aged age)).congr fun us hus ↦ ?_)
      rw [condition, hage us hus, h]
    | none =>
      refine .cons ((predictiveAt_aboutKey w ts).congr fun us hus ↦ ?_)
      rw [condition, hage us hus, h]
  | .quoted k :: ts => exact .cons (predictiveAt_aboutKey k ts)
  | [] | .keyword _ :: _ | .symbol .equal :: _ | .symbol .notEqual :: _
  | .symbol (.comparison _) :: _ | .symbol .openParen :: _ | .symbol .closeParen :: _
  | .symbol .comma :: _ | .symbol .bar :: _ =>
    exact (PredictiveAt.fail .operand _).congr fun us hus ↦ by cases us <;> cases hus; rfl

/-! ## Expressions

By induction on the depth, for the five readers at once. Where the depth is used up, a reader takes
nothing, which it does without a look at the tokens. -/

theorem conjunctionFrom_eq_self {depth : Nat} {first : Expr Condition} {ts : List Token}
    (h : ts.head? ≠ some (.keyword .and)) : conjunctionFrom depth first ts = .ok (first, ts) := by
  unfold conjunctionFrom
  split
  · exact absurd rfl h
  · rfl

theorem disjunctionFrom_eq_self {depth : Nat} {first : Expr Condition} {ts : List Token}
    (h : ts.head? ≠ some (.keyword .or)) : disjunctionFrom depth first ts = .ok (first, ts) := by
  unfold disjunctionFrom
  split
  · exact absurd rfl h
  · rfl

/-- Whether the readers of a depth look one token ahead. -/
structure Predictive (depth : Nat) : Prop where
  operand : ∀ ts, PredictiveAt (operand depth) ts
  conjuncts : ∀ first ts, PredictiveAt (conjunctionFrom depth first) ts
  conjunction : ∀ ts, PredictiveAt (conjunction depth) ts
  disjuncts : ∀ first ts, PredictiveAt (disjunctionFrom depth first) ts
  disjunction : ∀ ts, PredictiveAt (disjunction depth) ts

theorem predictive_zero : Predictive 0 where
  operand ts := (PredictiveAt.fail .operand ts).congr fun us _ ↦ by rw [Reader.operand]
  conjuncts first ts := (PredictiveAt.pure first ts).congr fun us _ ↦ by
    rw [conjunctionFrom]
    simp
  conjunction ts := (PredictiveAt.fail .operand ts).congr fun us _ ↦ by rw [Reader.conjunction]
  disjuncts first ts := (PredictiveAt.pure first ts).congr fun us _ ↦ by
    rw [disjunctionFrom]
    simp
  disjunction ts := (PredictiveAt.fail .operand ts).congr fun us _ ↦ by rw [Reader.disjunction]

section

variable {depth : Nat} (ih : Predictive depth)

include ih

private theorem predictiveAt_operand_succ (ts : List Token) :
    PredictiveAt (operand (depth + 1)) ts := by
  match ts with
  | .keyword .not :: ts =>
    exact .cons ((ih.operand ts).bind fun e us _ ↦ PredictiveAt.pure (Expr.not e) us)
  | .symbol .openParen :: ts =>
    refine .cons ((ih.disjunction ts).bind fun e us _ ↦ ?_)
    refine .of_head (.symbol .closeParen) (fun us ↦ .cons (PredictiveAt.pure e us))
      (.fail .closeParen us) fun us hus ↦ ?_
    split
    · next heq =>
      cases heq
      exact absurd rfl hus
    · next heq =>
      cases heq
      rfl
  | [] | .keyword (.kind _) :: _ | .keyword .withClause :: _ | .keyword .and :: _
  | .keyword .or :: _ | .word _ :: _ | .quoted _ :: _ | .symbol .equal :: _
  | .symbol .notEqual :: _ | .symbol .like :: _ | .symbol .notLike :: _
  | .symbol (.comparison _) :: _ | .symbol .bang :: _ | .symbol .closeParen :: _
  | .symbol .comma :: _ | .symbol .bar :: _ =>
    refine PredictiveAt.congr (r := fun ts ↦ condition ts >>= fun c ↦ .ok (.leaf c.1, c.2)) ?_ ?_
    · exact (predictiveAt_condition _).bind fun c us _ ↦ PredictiveAt.pure (Expr.leaf c) us
    · intro us hus
      cases us <;> cases hus
      rfl

theorem predictive_succ : Predictive (depth + 1) where
  operand := predictiveAt_operand_succ ih
  conjuncts first ts :=
    .of_head (.keyword .and)
      (fun us ↦ .cons ((ih.operand us).bind fun e vs _ ↦ ih.conjuncts (first.and e) vs))
      (.pure first ts) fun _ hus ↦ conjunctionFrom_eq_self hus
  conjunction ts := (ih.operand ts).bind fun e us _ ↦ ih.conjuncts e us
  disjuncts first ts :=
    .of_head (.keyword .or)
      (fun us ↦ .cons ((ih.conjunction us).bind fun e vs _ ↦ ih.disjuncts (first.or e) vs))
      (.pure first ts) fun _ hus ↦ disjunctionFrom_eq_self hus
  disjunction ts := (ih.conjunction ts).bind fun e us _ ↦ ih.disjuncts e us

end

theorem predictive (depth : Nat) : Predictive depth := by
  induction depth with
  | zero => exact predictive_zero
  | succ depth ih => exact predictive_succ ih

/-! ## Depth -/

/-- Whether the readers of a depth find the same at any other depth, if both are large enough for
the tokens. A token can take three steps down, from a disjunction to an operand. -/
structure Settled (depth : Nat) : Prop where
  operand : ∀ {ts} depth', 3 * ts.length + 1 ≤ depth → 3 * ts.length + 1 ≤ depth' →
    operand depth ts = operand depth' ts
  conjuncts : ∀ {first ts} depth', 3 * ts.length + 1 ≤ depth → 3 * ts.length + 1 ≤ depth' →
    conjunctionFrom depth first ts = conjunctionFrom depth' first ts
  conjunction : ∀ {ts} depth', 3 * ts.length + 2 ≤ depth → 3 * ts.length + 2 ≤ depth' →
    conjunction depth ts = conjunction depth' ts
  disjuncts : ∀ {first ts} depth', 3 * ts.length + 1 ≤ depth → 3 * ts.length + 1 ≤ depth' →
    disjunctionFrom depth first ts = disjunctionFrom depth' first ts
  disjunction : ∀ {ts} depth', 3 * ts.length + 3 ≤ depth → 3 * ts.length + 3 ≤ depth' →
    disjunction depth ts = disjunction depth' ts

theorem settled_zero : Settled 0 where
  operand _ h _ := absurd h (by omega)
  conjuncts _ h _ := absurd h (by omega)
  conjunction _ h _ := absurd h (by omega)
  disjuncts _ h _ := absurd h (by omega)
  disjunction _ h _ := absurd h (by omega)

/-- What two readers do after the same first one is the same if they agree on what it leaves, which
is no longer than what it was given. -/
theorem PredictiveAt.bind_congr {r : Reader α} {ts : List Token} (h : PredictiveAt r ts)
    {k k' : α × List Token → Except Fault β}
    (hk : ∀ a us, us.length ≤ ts.length → k (a, us) = k' (a, us)) : r ts >>= k = r ts >>= k' := by
  have hlength := h.suffix.length_le
  cases hr : r ts with
  | error f => rfl
  | ok found =>
    rw [hr] at hlength
    exact hk found.1 found.2 hlength

section

variable {depth : Nat} (ih : Settled depth)

include ih

private theorem operand_succ_eq {ts : List Token} (depth' : Nat)
    (h : 3 * ts.length + 1 ≤ depth + 1) (h' : 3 * ts.length + 1 ≤ depth' + 1) :
    operand (depth + 1) ts = operand (depth' + 1) ts := by
  match ts with
  | .keyword .not :: ts =>
    rw [List.length_cons] at h h'
    rw [operand, operand, ih.operand depth' (by omega) (by omega)]
  | .symbol .openParen :: ts =>
    rw [List.length_cons] at h h'
    rw [operand, operand, ih.disjunction depth' (by omega) (by omega)]
  | [] | .keyword (.kind _) :: _ | .keyword .withClause :: _ | .keyword .and :: _
  | .keyword .or :: _ | .word _ :: _ | .quoted _ :: _ | .symbol .equal :: _
  | .symbol .notEqual :: _ | .symbol .like :: _ | .symbol .notLike :: _
  | .symbol (.comparison _) :: _ | .symbol .bang :: _ | .symbol .closeParen :: _
  | .symbol .comma :: _ | .symbol .bar :: _ => rfl

private theorem conjunctionFrom_succ_eq {first : Expr Condition} {ts : List Token} (depth' : Nat)
    (h : 3 * ts.length + 1 ≤ depth + 1) (h' : 3 * ts.length + 1 ≤ depth' + 1) :
    conjunctionFrom (depth + 1) first ts = conjunctionFrom (depth' + 1) first ts := by
  by_cases hand : ts.head? = some (.keyword .and)
  · obtain ⟨ts, rfl⟩ := List.head?_eq_some_iff.mp hand
    rw [List.length_cons] at h h'
    rw [conjunctionFrom, conjunctionFrom, ih.operand depth' (by omega) (by omega)]
    exact ((predictive depth').operand ts).bind_congr fun e us hus ↦
      ih.conjuncts depth' (by omega) (by omega)
  · rw [conjunctionFrom_eq_self hand, conjunctionFrom_eq_self hand]

private theorem disjunctionFrom_succ_eq {first : Expr Condition} {ts : List Token} (depth' : Nat)
    (h : 3 * ts.length + 1 ≤ depth + 1) (h' : 3 * ts.length + 1 ≤ depth' + 1) :
    disjunctionFrom (depth + 1) first ts = disjunctionFrom (depth' + 1) first ts := by
  by_cases hor : ts.head? = some (.keyword .or)
  · obtain ⟨ts, rfl⟩ := List.head?_eq_some_iff.mp hor
    rw [List.length_cons] at h h'
    rw [disjunctionFrom, disjunctionFrom, ih.conjunction depth' (by omega) (by omega)]
    exact ((predictive depth').conjunction ts).bind_congr fun e us hus ↦
      ih.disjuncts depth' (by omega) (by omega)
  · rw [disjunctionFrom_eq_self hor, disjunctionFrom_eq_self hor]

theorem settled_succ : Settled (depth + 1) where
  operand
  | 0, _, h' => absurd h' (by omega)
  | depth' + 1, h, h' => operand_succ_eq ih depth' h h'
  conjuncts
  | 0, _, h' => absurd h' (by omega)
  | depth' + 1, h, h' => conjunctionFrom_succ_eq ih depth' h h'
  conjunction
  | 0, _, h' => absurd h' (by omega)
  | depth' + 1, h, h' => by
    rw [Reader.conjunction, Reader.conjunction, ih.operand depth' (by omega) (by omega)]
    exact ((predictive depth').operand _).bind_congr fun e us hus ↦
      ih.conjuncts depth' (by omega) (by omega)
  disjuncts
  | 0, _, h' => absurd h' (by omega)
  | depth' + 1, h, h' => disjunctionFrom_succ_eq ih depth' h h'
  disjunction
  | 0, _, h' => absurd h' (by omega)
  | depth' + 1, h, h' => by
    rw [Reader.disjunction, Reader.disjunction, ih.conjunction depth' (by omega) (by omega)]
    exact ((predictive depth').conjunction _).bind_congr fun e us hus ↦
      ih.disjuncts depth' (by omega) (by omega)

end

/-- **The depth makes no difference** once it is large enough for the tokens. -/
theorem settled (depth : Nat) : Settled depth := by
  induction depth with
  | zero => exact settled_zero
  | succ depth ih => exact settled_succ ih

/-! ## Queries -/

theorem predictiveAt_moreKinds (kinds : KindSet) (ts : List Token) :
    PredictiveAt (moreKinds kinds) ts := by
  match ts with
  | .symbol .comma :: .keyword (.kind k) :: ts =>
    exact .cons (.cons (predictiveAt_moreKinds (kinds.insert k) ts))
  | .symbol .comma :: [] | .symbol .comma :: .keyword .withClause :: _
  | .symbol .comma :: .keyword .and :: _ | .symbol .comma :: .keyword .or :: _
  | .symbol .comma :: .keyword .not :: _ | .symbol .comma :: .symbol _ :: _
  | .symbol .comma :: .word _ :: _ | .symbol .comma :: .quoted _ :: _ =>
    exact .cons ((PredictiveAt.fail .kind _).congr fun us hus ↦ by cases us <;> cases hus; rfl)
  | [] | .keyword _ :: _ | .word _ :: _ | .quoted _ :: _ | .symbol .equal :: _
  | .symbol .notEqual :: _ | .symbol .like :: _ | .symbol .notLike :: _
  | .symbol (.comparison _) :: _ | .symbol .bang :: _ | .symbol .openParen :: _
  | .symbol .closeParen :: _ | .symbol .bar :: _ =>
    exact (PredictiveAt.pure kinds _).congr fun us hus ↦ by cases us <;> cases hus; rfl

theorem predictiveAt_kinds (ts : List Token) : PredictiveAt kinds ts := by
  match ts with
  | .keyword (.kind k) :: ts => exact .cons (predictiveAt_moreKinds _ ts)
  | [] | .keyword .withClause :: _ | .keyword .and :: _ | .keyword .or :: _ | .keyword .not :: _
  | .symbol _ :: _ | .word _ :: _ | .quoted _ :: _ =>
    exact (PredictiveAt.fail .kind _).congr fun us hus ↦ by cases us <;> cases hus; rfl

/-- A query that has to end where it is. -/
def ending (query : Query) : Reader Query
  | [] => .ok (query, [])
  | ts => .error ⟨.connectiveOrEnd, ts⟩

/-- The condition of a query, if there is one, at a given depth. -/
def clause (depth : Nat) (kinds : KindSet) : Reader Query
  | [] => .ok (⟨kinds, none⟩, [])
  | .keyword .withClause :: ts => disjunction depth ts >>= fun (e, ts) ↦ ending ⟨kinds, some e⟩ ts
  | ts => .error ⟨.commaOrWith, ts⟩

/-- A query, with its condition read at a given depth. -/
def query (depth : Nat) : Reader Query := fun ts ↦
  kinds ts >>= fun (kinds, ts) ↦ clause depth kinds ts

theorem predictiveAt_ending (q : Query) (ts : List Token) : PredictiveAt (ending q) ts := by
  match ts with
  | [] => exact (PredictiveAt.pure q []).congr fun us hus ↦ by cases us <;> cases hus; rfl
  | t :: ts =>
    exact (PredictiveAt.fail .connectiveOrEnd _).congr fun us hus ↦ by cases us <;> cases hus; rfl

theorem predictiveAt_clause (depth : Nat) (kinds : KindSet) (ts : List Token) :
    PredictiveAt (clause depth kinds) ts := by
  match ts with
  | [] =>
    exact (PredictiveAt.pure ⟨kinds, none⟩ []).congr fun us hus ↦ by cases us <;> cases hus; rfl
  | .keyword .withClause :: ts =>
    exact .cons (((predictive depth).disjunction ts).bind fun e us _ ↦ predictiveAt_ending _ us)
  | .keyword (.kind _) :: _ | .keyword .and :: _ | .keyword .or :: _ | .keyword .not :: _
  | .symbol _ :: _ | .word _ :: _ | .quoted _ :: _ =>
    exact (PredictiveAt.fail .commaOrWith _).congr fun us hus ↦ by cases us <;> cases hus; rfl

theorem predictiveAt_query (depth : Nat) (ts : List Token) : PredictiveAt (query depth) ts :=
  (predictiveAt_kinds ts).bind fun kinds us _ ↦ predictiveAt_clause depth kinds us

end Reader

theorem ofTokens_eq_map_query {ts : List Token} {depth : Nat} (h : Reader.depthFor ts ≤ depth) :
    ofTokens ts = (Reader.query depth ts).map (·.1) := by
  have hlength := (Reader.predictiveAt_kinds ts).suffix.length_le
  rw [Reader.depthFor] at h
  rw [ofTokens, Reader.query]
  cases hkinds : Reader.kinds ts with
  | error f => rfl
  | ok found =>
    obtain ⟨s, rest⟩ := found
    rw [hkinds] at hlength
    rcases rest with _ | ⟨(_ | _ | _ | _ | _) | _ | _ | _, us⟩
    case cons.keyword.withClause =>
      have hshorter : us.length + 1 ≤ ts.length := hlength
      have hread : Reader.disjunction (Reader.depthFor us) us = Reader.disjunction depth us :=
        (Reader.settled _).disjunction depth (Nat.le_refl _) (by omega)
      change (Reader.disjunction (Reader.depthFor us) us >>= _) =
        Except.map _ (Reader.disjunction depth us >>= _)
      rw [hread]
      cases Reader.disjunction depth us with
      | error f => rfl
      | ok found =>
        obtain ⟨e, rest⟩ := found
        cases rest <;> rfl
    all_goals rfl

theorem query_eq_error_of_ofTokens {ts : List Token} {depth : Nat} {f : Fault}
    (hdepth : Reader.depthFor ts ≤ depth) (h : ofTokens ts = .error f) :
    Reader.query depth ts = .error f := by
  rw [ofTokens_eq_map_query hdepth] at h
  cases hread : Reader.query depth ts with
  | error f' =>
    rw [hread] at h
    exact congrArg _ (Except.error.inj h)
  | ok found =>
    rw [hread] at h
    cases h

/-- **A fault lies in what has been taken and the first token that remains**: whatever else follows,
it is the same fault. -/
theorem ofTokens_append_of_error {ts : List Token} {f : Fault} (h : ofTokens ts = .error f) :
    ∃ taken, ts = taken ++ f.remaining ∧ ∀ rest : List Token,
      rest.head? = f.remaining.head? → ofTokens (taken ++ rest) = .error ⟨f.expected, rest⟩ := by
  obtain ⟨taken, htaken⟩ := (Reader.predictiveAt_query (Reader.depthFor ts) ts).suffix
  rw [query_eq_error_of_ofTokens (Nat.le_refl _) h] at htaken
  refine ⟨taken, htaken.symm, fun rest hrest ↦ ?_⟩
  -- a depth that is enough for both lists
  let depth := Reader.depthFor ts + Reader.depthFor (taken ++ rest)
  have hts : Reader.query depth ts = .error f :=
    query_eq_error_of_ofTokens (Nat.le_add_right _ _) h
  have happly := (Reader.predictiveAt_query depth ts).apply_append taken rest
  rw [hts] at happly
  rw [ofTokens_eq_map_query (Nat.le_add_left _ _ : Reader.depthFor (taken ++ rest) ≤ depth),
    happly htaken.symm hrest]
  rfl

end TagQuery.Query
