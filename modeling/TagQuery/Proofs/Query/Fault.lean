import TagQuery.Proofs.Query.Layout
import TagQuery.Proofs.Query.Lookahead

/-!
# Faults lie at the first impossible token

Where a text of tokens is no query, the fault is reported at the first token that no query can have
there, or at the end if one more token is needed (`parse_fault`). This is two facts.

The tokens before the fault are the beginning of some query. Each reader that fails has read its own
part of a tree up to there, and what is missing can be made up: a value, a kind or a closing
parenthesis. A reader that fails returns no tree, so the trees are found by going through the
readers, from the leaves up (`Reader.viable`). What is made up can be written down, so the query is
one that a text can write.

With the token at the fault they are not. A reader looks at nothing after that token, so whatever
stands there, it would fail in the same way (`ofTokens_append_of_error`); but what is derivable is
read without a fault (`ofTokens_tokens`).

The end of the text is no token that a reader takes. What has been taken before a fault consists of
tokens alone, so reading halts at the end at the latest.
-/

namespace TagQuery.Query

open Grammar

/-! ## Beginnings -/

/-- Whether the tokens up to a fault are the beginning of what some tree derives, and the tokens
that are missing can be written. -/
def Begun {τ : Type} (yield : τ → List Token) (ts : List Token) (f : Fault) : Prop :=
  ∃ taken missing, ∃ x : τ, ts = taken ++ f.remaining ∧ yield x = taken ++ missing ∧
    ∀ t ∈ missing, t.IsWritable

/-- What stands where a value is missing. -/
def anyValue : Value := .quoted ""

namespace Begun

variable {τ σ : Type} {yield : τ → List Token} {yield' : σ → List Token} {ts : List Token}
  {f : Fault}

/-- A value is missing where the reader of a part has begun. -/
theorem of_remaining (h : f.remaining = ts) (before : List Token) (x : τ)
    (hx : yield x = before ++ [anyValue.token]) : Begun yield (before ++ ts) f :=
  ⟨before, [anyValue.token], x, by rw [h], hx, by decide⟩

/-- A tree that has been begun is the last part of another one, after tokens that were taken
before. -/
theorem extend (h : Begun yield ts f) (before : List Token) (g : τ → σ)
    (hg : ∀ x, yield' (g x) = before ++ yield x) : Begun yield' (before ++ ts) f := by
  obtain ⟨taken, missing, x, rfl, hx, hmissing⟩ := h
  refine ⟨before ++ taken, missing, g x, (List.append_assoc before taken _).symm, ?_, hmissing⟩
  rw [hg, hx, List.append_assoc]

end Begun

namespace Reader

/-! ## Conditions -/

theorem remaining_of_text {expected : Expectation} {ts : List Token} {f : Fault}
    (h : text expected ts = .error f) : f.remaining = ts := by
  unfold text at h
  split at h
  · cases h
  · cases h
  · cases h
    rfl

theorem remaining_of_literal {ts : List Token} {f : Fault} (h : literal ts = .error f) :
    f.remaining = ts := by
  rcases bind_eq_error_iff.mp h with h | ⟨_, -, h⟩
  · exact remaining_of_text h
  · cases h

theorem begun_of_morePatterns {ts : List Token} {f : Fault} (h : morePatterns ts = .error f) :
    Begun (after (.symbol .bar) Value.token) ts f := by
  fun_induction morePatterns ts with
  | case1 s ts ih =>
    exact (ih (map_eq_error_iff.mp h)).extend [.symbol .bar, .word s] (.word s :: ·) fun _ ↦ rfl
  | case2 s ts ih =>
    exact (ih (map_eq_error_iff.mp h)).extend [.symbol .bar, .quoted s] (.quoted s :: ·)
      fun _ ↦ rfl
  | case3 ts =>
    cases h
    exact ⟨[.symbol .bar], [anyValue.token], [anyValue], rfl, rfl, by decide⟩
  | case4 => cases h

theorem begun_of_patterns {ts : List Token} {f : Fault} (h : patterns ts = .error f) :
    Begun listTokens ts f := by
  rcases bind_eq_error_iff.mp h with h | ⟨⟨s, us⟩, hs, h⟩
  · exact .of_remaining (remaining_of_text h) [] ⟨anyValue, []⟩ rfl
  · obtain ⟨v, rfl, rfl⟩ := exists_of_text hs
    rcases bind_eq_error_iff.mp h with h | ⟨_, -, h⟩
    · exact (begun_of_morePatterns h).extend [v.token] (⟨v, ·⟩) fun _ ↦ rfl
    · cases h

theorem begun_of_aboutKey (k : Value) {ts : List Token} {f : Fault}
    (h : aboutKey k.text ts = .error f) : Begun Leaf.tokens (k.token :: ts) f := by
  unfold aboutKey at h
  split at h
  · next op ts =>
    exact .of_remaining (remaining_of_literal (map_eq_error_iff.mp h))
      [k.token, .symbol (.comparison op)] (.compares k op ⟨anyValue, []⟩) rfl
  · exact .of_remaining (remaining_of_text (map_eq_error_iff.mp h)) [k.token, .symbol .equal]
      (.equals k anyValue) rfl
  · exact .of_remaining (remaining_of_text (map_eq_error_iff.mp h)) [k.token, .symbol .notEqual]
      (.notEquals k anyValue) rfl
  · exact (begun_of_patterns (map_eq_error_iff.mp h)).extend [k.token, .symbol .like] (.like k)
      fun _ ↦ rfl
  · exact (begun_of_patterns (map_eq_error_iff.mp h)).extend [k.token, .symbol .notLike]
      (.notLike k) fun _ ↦ rfl
  · cases h

theorem begun_of_aboutKeysLike (ks : Several Value) {ts : List Token} {f : Fault}
    (h : aboutKeysLike (Grammar.texts ks) ts = .error f) :
    Begun Leaf.tokens (.symbol .like :: (listTokens ks ++ ts)) f := by
  unfold aboutKeysLike at h
  split at h
  · next ts =>
    obtain ⟨taken, missing, vs, rfl, hvs, hmissing⟩ := begun_of_patterns (map_eq_error_iff.mp h)
    refine ⟨.symbol .like :: (listTokens ks ++ .symbol .like :: taken), missing, .tagsLike ks vs,
      ?_, ?_, hmissing⟩
    · simp only [List.cons_append, List.append_assoc]
    · simp only [Leaf.tokens, hvs, List.cons_append, List.append_assoc]
  · cases h

theorem begun_of_condition {ts : List Token} {f : Fault} (h : condition ts = .error f) :
    Begun Leaf.tokens ts f := by
  unfold condition at h
  split at h
  · exact .of_remaining (remaining_of_text (map_eq_error_iff.mp h)) [.symbol .bang]
      (.lacks anyValue) rfl
  · rcases bind_eq_error_iff.mp h with h | ⟨⟨ps, us⟩, hks, h⟩
    · exact (begun_of_patterns h).extend [.symbol .like] .keysLike fun _ ↦ rfl
    · obtain ⟨ks, rfl, rfl⟩ := exists_of_patterns hks
      exact begun_of_aboutKeysLike ks h
  · exact (begun_of_patterns (map_eq_error_iff.mp h)).extend [.symbol .notLike] .notKeysLike
      fun _ ↦ rfl
  · next w ts =>
    split at h
    · next age hage =>
      -- a text follows, so the literal cannot fail, but its beginning is one in any case
      unfold age? at hage
      split at hage
      · rw [Age.word_of_ofWord? hage]
        exact .of_remaining (remaining_of_literal (map_eq_error_iff.mp h)) [.word age.word]
          (.aged age ⟨anyValue, []⟩) rfl
      · cases hage
    · exact begun_of_aboutKey (.word w) h
  · next k ts => exact begun_of_aboutKey (.quoted k) h
  · cases h
    exact ⟨[], [anyValue.token], .key anyValue, rfl, rfl, by decide⟩

/-! ## Expressions

By induction on the depth, for the five readers at once. What comes before the part that fails has
been read, so it is the yield of a tree (`Reader.sound`), and the part that fails is the last one of
its chain. -/

/-- What stands where an operand is missing. -/
def anyOperand : Operand := .leaf (.key anyValue)

/-- What stands where a conjunction is missing. -/
def anyConjunction : Conjunction := .chain anyOperand []

/-- Whether the readers of a depth have begun a tree where they fail. -/
structure Viable (depth : Nat) : Prop where
  operand : ∀ {ts f}, operand depth ts = .error f → Begun Operand.tokens ts f
  conjuncts : ∀ {first ts f}, conjunctionFrom depth first ts = .error f → Begun andTokens ts f
  conjunction : ∀ {ts f}, conjunction depth ts = .error f → Begun Conjunction.tokens ts f
  disjuncts : ∀ {first ts f}, disjunctionFrom depth first ts = .error f → Begun orTokens ts f
  disjunction : ∀ {ts f}, disjunction depth ts = .error f → Begun Disjunction.tokens ts f

theorem viable_zero : Viable 0 where
  operand h := by
    rw [Reader.operand] at h
    cases h
    exact ⟨[], [anyValue.token], anyOperand, rfl, rfl, by decide⟩
  conjuncts h := by
    rw [conjunctionFrom] at h
    · cases h
    · simp
  conjunction h := by
    rw [Reader.conjunction] at h
    cases h
    exact ⟨[], [anyValue.token], anyConjunction, rfl, rfl, by decide⟩
  disjuncts h := by
    rw [disjunctionFrom] at h
    · cases h
    · simp
  disjunction h := by
    rw [Reader.disjunction] at h
    cases h
    exact ⟨[], [anyValue.token], .chain anyConjunction [], rfl, rfl, by decide⟩

section

variable {depth : Nat} (ih : Viable depth)

include ih

private theorem begun_of_operand_succ {ts : List Token} {f : Fault}
    (h : operand (depth + 1) ts = .error f) : Begun Operand.tokens ts f := by
  unfold operand at h
  split at h
  · cases ‹depth + 1 = 0›
  · next heq =>
    obtain rfl := Nat.succ.inj heq
    rcases bind_eq_error_iff.mp h with h | ⟨_, -, h⟩
    · exact (ih.operand h).extend [.keyword .not] .not fun _ ↦ rfl
    · cases h
  · next heq =>
    obtain rfl := Nat.succ.inj heq
    rcases bind_eq_error_iff.mp h with h | ⟨⟨e, us⟩, hd, hclose⟩
    · -- the closing parenthesis is missing as well
      obtain ⟨taken, missing, d, rfl, hx, hmissing⟩ := ih.disjunction h
      refine ⟨.symbol .openParen :: taken, missing ++ [.symbol .closeParen], .parens d, rfl, ?_, ?_⟩
      · rw [Operand.tokens, hx, List.cons_append, List.append_assoc]
      · exact List.forall_mem_append.mpr ⟨hmissing, by decide⟩
    · obtain ⟨d, rfl, -⟩ := (Reader.sound _).disjunction hd
      split at hclose
      · cases hclose
      · next hleft =>
        cases hleft
        cases hclose
        exact ⟨.symbol .openParen :: d.tokens, [.symbol .closeParen], .parens d, rfl, rfl,
          by decide⟩
  · next heq =>
    rcases bind_eq_error_iff.mp h with h | ⟨_, -, h⟩
    · exact (begun_of_condition h).extend [] .leaf fun _ ↦ rfl
    · cases h

private theorem begun_of_conjunctionFrom_succ {first : Expr Condition} {ts : List Token}
    {f : Fault} (h : conjunctionFrom (depth + 1) first ts = .error f) : Begun andTokens ts f := by
  unfold conjunctionFrom at h
  split at h
  · next heq =>
    obtain rfl := Nat.succ.inj heq
    rcases bind_eq_error_iff.mp h with h | ⟨⟨e, us⟩, ho, hmore⟩
    · exact (ih.operand h).extend [.keyword .and] (fun o ↦ [o]) fun o ↦
        congrArg (List.cons (Token.keyword .and)) (List.append_nil o.tokens)
    · obtain ⟨o, rfl, -⟩ := (Reader.sound _).operand ho
      exact (ih.conjuncts hmore).extend (.keyword .and :: o.tokens) (o :: ·) fun _ ↦ rfl
  · cases h

private theorem begun_of_disjunctionFrom_succ {first : Expr Condition} {ts : List Token}
    {f : Fault} (h : disjunctionFrom (depth + 1) first ts = .error f) : Begun orTokens ts f := by
  unfold disjunctionFrom at h
  split at h
  · next heq =>
    obtain rfl := Nat.succ.inj heq
    rcases bind_eq_error_iff.mp h with h | ⟨⟨e, us⟩, hc, hmore⟩
    · exact (ih.conjunction h).extend [.keyword .or] (fun c ↦ [c]) fun c ↦
        congrArg (List.cons (Token.keyword .or)) (List.append_nil c.tokens)
    · obtain ⟨c, rfl, -⟩ := (Reader.sound _).conjunction hc
      exact (ih.disjuncts hmore).extend (.keyword .or :: c.tokens) (c :: ·) fun _ ↦ rfl
  · cases h

theorem viable_succ : Viable (depth + 1) where
  operand := begun_of_operand_succ ih
  conjuncts := begun_of_conjunctionFrom_succ ih
  conjunction h := by
    rw [Reader.conjunction] at h
    rcases bind_eq_error_iff.mp h with h | ⟨⟨e, us⟩, ho, hmore⟩
    · exact (ih.operand h).extend [] (.chain · []) fun o ↦ List.append_nil o.tokens
    · obtain ⟨o, rfl, -⟩ := (Reader.sound _).operand ho
      exact (ih.conjuncts hmore).extend o.tokens (.chain o) fun _ ↦ rfl
  disjuncts := begun_of_disjunctionFrom_succ ih
  disjunction h := by
    rw [Reader.disjunction] at h
    rcases bind_eq_error_iff.mp h with h | ⟨⟨e, us⟩, hc, hmore⟩
    · exact (ih.conjunction h).extend [] (.chain · []) fun c ↦ List.append_nil c.tokens
    · obtain ⟨c, rfl, -⟩ := (Reader.sound _).conjunction hc
      exact (ih.disjuncts hmore).extend c.tokens (.chain c) fun _ ↦ rfl

end

/-- **A reader that fails has begun a tree.** -/
theorem viable (depth : Nat) : Viable depth := by
  induction depth with
  | zero => exact viable_zero
  | succ depth ih => exact viable_succ ih

/-! ## Queries -/

theorem begun_of_moreKinds {s : KindSet} {ts : List Token} {f : Fault}
    (h : moreKinds s ts = .error f) :
    Begun (after (.symbol .comma) fun k ↦ .keyword (.kind k)) ts f := by
  fun_induction moreKinds s ts with
  | case1 s k ts ih =>
    exact (ih h).extend [.symbol .comma, .keyword (.kind k)] (k :: ·) fun _ ↦ rfl
  | case2 s ts =>
    cases h
    exact ⟨[.symbol .comma], [.keyword (.kind .node)], [.node], rfl, rfl, by decide⟩
  | case3 => cases h

theorem begun_of_kinds {ts : List Token} {f : Fault} (h : kinds ts = .error f) :
    Begun Derivation.kindTokens ts f := by
  unfold kinds at h
  split at h
  · next k ts =>
    exact (begun_of_moreKinds h).extend [.keyword (.kind k)] (⟨k, ·⟩) fun _ ↦ rfl
  · cases h
    exact ⟨[], [.keyword (.kind .node)], ⟨.node, []⟩, rfl, rfl, by decide⟩

theorem remaining_of_ending {q : Query} {ts : List Token} {f : Fault}
    (h : ending q ts = .error f) : f.remaining = ts := by
  unfold ending at h
  split at h
  · cases h
  · cases h
    rfl

theorem begun_of_clause {depth : Nat} {s : KindSet} {ts : List Token} {f : Fault}
    (h : clause depth s ts = .error f) : Begun Derivation.clauseTokens ts f := by
  unfold clause at h
  split at h
  · cases h
  · rcases bind_eq_error_iff.mp h with h | ⟨⟨e, us⟩, hd, hend⟩
    · exact ((viable depth).disjunction h).extend [.keyword .withClause] some fun _ ↦ rfl
    · obtain ⟨d, rfl, -⟩ := (sound depth).disjunction hd
      exact ⟨.keyword .withClause :: d.tokens, [], some d, by rw [remaining_of_ending hend]; rfl,
        (List.append_nil _).symm, List.forall_mem_nil _⟩
  · cases h
    exact ⟨[], [], none, rfl, rfl, List.forall_mem_nil _⟩

theorem begun_of_query {depth : Nat} {ts : List Token} {f : Fault} (h : query depth ts = .error f) :
    Begun Derivation.tokens ts f := by
  rcases bind_eq_error_iff.mp h with h | ⟨⟨s, us⟩, hkinds, hclause⟩
  · exact (begun_of_kinds h).extend [] (⟨·, none⟩) fun ks ↦ List.append_nil _
  · obtain ⟨ks, rfl, -⟩ := exists_of_kinds hkinds
    exact (begun_of_clause hclause).extend (Derivation.kindTokens ks) (⟨ks, ·⟩) fun _ ↦ rfl

end Reader

/-- **The tokens before a fault begin a query, and the next one makes it impossible.** -/
theorem exists_taken_of_ofTokens {ts : List Token} {f : Fault} (h : ofTokens ts = .error f) :
    ∃ taken, ts = taken ++ f.remaining ∧
      (∃ missing, ∃ d : Derivation, d.tokens = taken ++ missing ∧ ∀ t ∈ missing, t.IsWritable) ∧
      ∀ rest : List Token, rest.head? = f.remaining.head? →
        ∀ d : Derivation, d.tokens ≠ taken ++ rest := by
  obtain ⟨taken, missing, d, hts, hd, hmissing⟩ :=
    Reader.begun_of_query (query_eq_error_of_ofTokens (Nat.le_refl _) h)
  obtain ⟨taken', hts', hrest⟩ := ofTokens_append_of_error h
  -- what remains is the same, so both have taken the same
  obtain rfl := List.append_cancel_right (hts.symm.trans hts')
  refine ⟨taken, hts, ⟨missing, d, hd, hmissing⟩, fun rest hhead d hd ↦ ?_⟩
  have hread := hrest rest hhead
  rw [← hd, ofTokens_tokens] at hread
  cases hread

/-! ## Texts -/

/-- A fault of the tokens is reported as one of the stops of the text: what remains begins with
it. -/
theorem SyntaxError.exists_ofFault (source : String) (before left : List PlacedToken) (f : Fault)
    (h : left.map (·.token) = f.remaining) :
    let s := ofFault source (before ++ left) f
    ∃ after : List Stop, left.map (fun p ↦ ⟨some p.token, p.offset⟩) ++
      [⟨none, Text.utf8Length source.toList⟩] = ⟨s.found, s.position⟩ :: after := by
  have hdrop : (before ++ left).drop ((before ++ left).length - f.remaining.length) = left := by
    rw [← h, List.length_append, List.length_map, Nat.add_sub_cancel, List.drop_left]
  rw [ofFault, hdrop, ← h]
  cases left with
  | nil => exact ⟨[], rfl⟩
  | cons p left => exact ⟨_, rfl⟩

/-- **A syntax error points at the first impossible token.** If the tokens of a text are no query,
the fault is placed at one of the stops of the text and shows what is there. The tokens before it
begin a query that can be written, with this token they do not, and at the end they are none. -/
theorem parse_fault {source : String} {found : List Stop} {e : ParseError}
    (hstops : stops source = .ok found) (h : parse source = .error e) :
    ∃ s before stop after taken, e = .syntactic s ∧ found = before ++ stop :: after ∧
      s.position = stop.offset ∧ s.found = stop.token ∧
      s.describeFound = (stop.token.map Token.describe).getD "end of input" ∧
      before.map (·.token) = taken.map some ∧
      (∃ d : Derivation, taken <+: d.tokens ∧ ∃ text, Lexes text d.tokens) ∧
      (∀ t, stop.token = some t → ∀ d : Derivation, ¬ taken ++ [t] <+: d.tokens) ∧
      (stop.token = none → ∀ d : Derivation, d.tokens ≠ taken) := by
  obtain ⟨placed, hplaced, rfl⟩ := map_eq_ok_iff.mp hstops
  rw [parse, hplaced] at h
  obtain ⟨f, hf, rfl⟩ := mapError_eq_error_iff.mp h
  obtain ⟨taken, htaken, ⟨missing, d, hd, hmissing⟩, himpossible⟩ := exists_taken_of_ofTokens hf
  have hlexes : Lexes source.toList (taken ++ f.remaining) :=
    lexes_iff_exists_tokens.mpr ⟨placed, hplaced, htaken⟩
  obtain ⟨before, left, rfl, rfl, hleft⟩ := List.map_eq_append_iff.mp htaken
  obtain ⟨after, hafter⟩ := SyntaxError.exists_ofFault source before left f hleft
  let s := SyntaxError.ofFault source (before ++ left) f
  refine ⟨s, before.map fun p ↦ ⟨some p.token, p.offset⟩, ⟨s.found, s.position⟩, after,
    before.map (·.token), rfl, ?_, rfl, rfl, rfl, ?_, ⟨d, ⟨missing, hd.symm⟩, ?_⟩, ?_, ?_⟩
  · rw [List.map_append, List.append_assoc, hafter]
  · rw [List.map_map, List.map_map]
    rfl
  · -- what was taken stands in the text, so it can be written like what is made up
    have htaken := (List.forall_mem_append.mp hlexes.isWritable).1
    refine ⟨spelled d.tokens, lexes_spelled ?_⟩
    rw [hd]
    exact List.forall_mem_append.mpr ⟨htaken, hmissing⟩
  · rintro t ht d ⟨rest, hrest⟩
    refine himpossible (t :: rest) ht.symm d ?_
    rw [← hrest, List.append_assoc, List.singleton_append]
  · intro hend d hd
    exact himpossible [] hend.symm d (by rw [hd, List.append_nil])

/-- In parentheses, the absence of a key cannot be compared with a value: the sign is at fault, after
an age condition and a key of two bytes. -/
theorem parse_fault_in_parentheses :
    ∃ source found, source = "ways with (newer today or !é = b" ∧ stops source = .ok found ∧
      parse source = .error (.syntactic ⟨30, .closeParen, some (.symbol .equal)⟩) ∧
      ∃ before after taken, found = before ++ ⟨some (.symbol .equal), 30⟩ :: after ∧
        before.map (·.token) = taken.map some ∧ (∃ d : Derivation, taken <+: d.tokens) ∧
        ∀ d : Derivation, ¬ taken ++ [.symbol .equal] <+: d.tokens := by
  let l : Layout :=
    ⟨[⟨[], "ways".toList, .keyword (.kind .way)⟩, ⟨[' '], "with".toList, .keyword .withClause⟩,
      ⟨[' '], "(".toList, .symbol .openParen⟩, ⟨[], "newer".toList, .word "newer"⟩,
      ⟨[' '], "today".toList, .word "today"⟩, ⟨[' '], "or".toList, .keyword .or⟩,
      ⟨[' '], "!".toList, .symbol .bang⟩, ⟨[], "é".toList, .word "é"⟩,
      ⟨[' '], "=".toList, .symbol .equal⟩, ⟨[' '], "b".toList, .word "b"⟩], []⟩
  have hproper : l.IsProper := by
    refine ⟨by simp [l, isSeparator], List.forall_mem_nil _, ?_, by decide⟩
    have hword : ∀ w ∈ ["newer", "today", "é", "b"], (Token.word w).IsWritable := by decide
    simp only [List.forall_mem_cons] at hword
    obtain ⟨hnewer, htoday, hkey, hvalue, -⟩ := hword
    simp only [l, List.forall_mem_cons]
    exact ⟨.keyword _, .keyword _, .symbol _, .word hnewer, .word htoday, .keyword _, .symbol _,
      .word hkey, .symbol _, .word hvalue, List.forall_mem_nil _⟩
  have hplaced : tokens "ways with (newer today or !é = b" =
      .ok (Layout.placedFrom 0 l.inscriptions) :=
    Layout.tokensFrom_text hproper 0
  have hstops : stops "ways with (newer today or !é = b" = .ok l.stops := by
    rw [stops, hplaced]
    rfl
  have hparse : parse "ways with (newer today or !é = b" =
      .error (.syntactic ⟨30, .closeParen, some (.symbol .equal)⟩) := by
    rw [parse, hplaced]
    rfl
  obtain ⟨s, before, ⟨token, offset⟩, after, taken, hs, hfound, hposition, htoken, -, hbefore,
    ⟨d, hd, -⟩, himpossible, -⟩ := parse_fault hstops hparse
  cases hs
  cases hposition
  cases htoken
  exact ⟨_, _, rfl, hstops, hparse, before, after, taken, hfound, hbefore, ⟨d, hd⟩,
    himpossible _ rfl⟩

end TagQuery.Query
