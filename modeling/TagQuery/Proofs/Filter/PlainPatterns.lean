import TagQuery.Filter.Evaluation
import TagQuery.Proofs.Filter.Alternatives

/-!
# Plain patterns

A pattern without a character that has a meaning in regular expressions is *plain*. A plain pattern
for values is compared with a value as it is, and never read as an expression; plain patterns for
keys are read as one expression all the same. The two come to the same only if no character is
missing from those with a meaning. None is, as an expression is read at first: a blank and a number
sign stand for themselves as long as the expression is not verbose, a hyphen and an ampersand as
long as no class is open.

So a plain text is read character by character, up to a closing parenthesis after it
(`readSequence?_of_plain`), and what it is read as leads over the text and over nothing else
(`spans_plainSequence_iff`). It leaves the flags as they are and names no group, so that plain
alternatives for keys do not bear on one another.
-/

namespace TagQuery

open Regex Regex.Parser

/-- A text has no character with a meaning in regular expressions. -/
def Pattern.IsPlain (p : String) : Prop := ∀ c ∈ p.toList, isMeta c = false

instance (p : String) : Decidable (Pattern.IsPlain p) := List.decidableBAll _ _

/-! ## Reading plain texts -/

namespace Regex.Parser

/-- The sequence of the characters of a text, of which `done` and then `last` precede. -/
def plainSequence (done : Regex) (last : Option Regex) : List Char → Regex
  | [] => append done last
  | c :: cs => plainSequence (append done last) (some (literal .initial c)) cs

/-- A character without a meaning stands for itself. -/
theorem piece?_of_plain {c : Char} (hc : Pattern.isMeta c = false) (rest : List Char) :
    piece? start (c :: rest) = some (.part (literal .initial c), rest) := by
  change pieceFrom? start c rest = _
  unfold pieceFrom?
  split
  -- The last case is that of all other characters.
  case h_13 => rfl
  all_goals cases hc

theorem readSequence?_of_plain {cs : List Char} (hplain : ∀ c ∈ cs, Pattern.isMeta c = false)
    (done : Regex) (last : Option Regex) (u : List Char) :
    readSequence? start done last (cs ++ ')' :: u)
      = some ((plainSequence done last cs, start), ')' :: u) := by
  induction cs generalizing done last with
  | nil =>
    rw [readSequence?_eq]
    rfl
  | cons c cs ih =>
    obtain ⟨hc, hcs⟩ := List.forall_mem_cons.mp hplain
    rw [readSequence?_eq, List.cons_append, piece?_of_plain hc]
    exact ih hcs (append done last) (some (literal .initial c))

end Regex.Parser

/-! ## What plain texts denote -/

namespace Regex

/-- A stretch of a text lies between two positions. -/
def Position.Over (cs : List Char) (p q : Position) : Prop :=
  p.after = cs ++ q.after ∧ q.before = cs.reverse ++ p.before

theorem Position.over_nil_iff {p q : Position} : Over [] p q ↔ p = q := by
  obtain ⟨before, after⟩ := p
  obtain ⟨before', after'⟩ := q
  simp [Over, and_comm, eq_comm]

theorem Position.over_cons_iff (c : Char) (cs : List Char) {p q : Position} :
    Over (c :: cs) p q ↔ ∃ m, Over [c] p m ∧ Over cs m q := by
  constructor
  · rintro ⟨hafter, hbefore⟩
    exact ⟨⟨c :: p.before, cs ++ q.after⟩, ⟨hafter, rfl⟩, rfl, by simp [hbefore]⟩
  · rintro ⟨m, ⟨hp, hm⟩, hafter, hbefore⟩
    exact ⟨by simp [hp, hafter], by simp [hbefore, hm]⟩

/-- Under the flags at the start, a character leads over itself. -/
theorem spans_literal_iff {c : Char} {p q : Position} :
    (literal .initial c).Spans p q ↔ Position.Over [c] p q := by
  change (∃ d rest, p.after = d :: rest ∧ (CharClass.single c).contains d = true ∧ _) ↔ _
  simp only [CharClass.contains_single, decide_eq_true_eq]
  constructor
  · rintro ⟨d, rest, hafter, rfl, rfl⟩
    exact ⟨hafter, rfl⟩
  · rintro ⟨hafter, hbefore⟩
    exact ⟨c, q.after, hafter, rfl, congrArg (Position.mk · q.after) hbefore⟩

theorem spans_append_some_iff (done : Regex) (last : Option Regex) (r : Regex) {p q : Position} :
    (append (append done last) (some r)).Spans p q ↔
      ∃ m, (append done last).Spans p m ∧ r.Spans m q :=
  .rfl

/-- After what precedes it, a plain text leads over itself. -/
theorem spans_plainSequence_iff (done : Regex) (last : Option Regex) (cs : List Char)
    {p q : Position} :
    (plainSequence done last cs).Spans p q ↔ ∃ m, (append done last).Spans p m ∧ m.Over cs q := by
  induction cs generalizing done last with
  | nil =>
    simp only [Position.over_nil_iff, exists_eq_right, plainSequence]
  | cons c cs ih =>
    rw [plainSequence, ih]
    simp only [spans_append_some_iff, spans_literal_iff, Position.over_cons_iff c cs]
    constructor
    · rintro ⟨m, ⟨m', hm', hc⟩, hcs⟩
      exact ⟨m', hm', m, hc, hcs⟩
    · rintro ⟨m', hm', m, hc, hcs⟩
      exact ⟨m, ⟨m', hm', hc⟩, hcs⟩

theorem denotes_plainSequence_iff {cs text : List Char} :
    (plainSequence .empty none cs).Denotes text ↔ text = cs := by
  rw [Denotes, spans_plainSequence_iff]
  constructor
  · rintro ⟨m, rfl, hafter, -⟩
    simpa using hafter
  · rintro rfl
    exact ⟨_, rfl, by simp, by simp⟩

end Regex

/-! ## Plain alternatives for keys -/

namespace KeyPattern

open Pattern (IsPlain)

variable {p : String} {ks : List String}

theorem enclosed?_of_plain (hp : IsPlain p) :
    enclosed? p = some (plainSequence .empty none p.toList, start) := by
  rw [enclosed?_eq_some_iff, readChoice?_eq, readSequence?_of_plain hp]
  rfl

theorem isSelfContained_of_plain (hp : IsPlain p) : IsSelfContained p := by
  rw [IsSelfContained, enclosed?_of_plain hp]
  rfl

theorem groupNames_of_plain (hp : IsPlain p) : groupNames p = [] := by
  rw [groupNames, enclosed?_of_plain hp]
  rfl

/-- A plain alternative is an expression, which holds for itself alone. -/
theorem exists_keys_of_plain (hp : IsPlain p) :
    ∃ r, Predicate.keys [p] = .ok r ∧ ∀ key, r.holds key = true ↔ key = p := by
  obtain ⟨r, hr, hholds⟩ := exists_keys_of_enclosed (enclosed?_of_plain hp)
  refine ⟨r, hr, fun key ↦ ?_⟩
  rw [hholds, denotes_plainSequence_iff, String.toList_inj]

/-- Plain alternatives are an expression together, which holds for each of them and nothing else. -/
theorem exists_keys_of_forall_plain (hne : ks ≠ []) (hplain : ∀ k ∈ ks, IsPlain k) :
    ∃ r, Predicate.keys ks = .ok r ∧ ∀ key, r.holds key = true ↔ key ∈ ks := by
  have hself : ∀ k ∈ ks, IsSelfContained k := fun k hk ↦ isSelfContained_of_plain (hplain k hk)
  have hapart : ks.Pairwise NamesApart := by
    refine List.pairwise_of_forall_mem_list fun k hk k' _ name hname ↦ ?_
    rw [groupNames_of_plain (hplain k hk)] at hname
    cases hname
  have hfaithful := isFaithful_of_apart hne hself hapart
  obtain ⟨r, hr⟩ := hfaithful.compiles.mpr fun k hk ↦ exists_keys_of_isSelfContained (hself k hk)
  refine ⟨r, hr, fun key ↦ ?_⟩
  rw [hfaithful.holds r hr]
  constructor
  · rintro ⟨k, hk, s, hs, hkey⟩
    obtain ⟨s', hs', hholds⟩ := exists_keys_of_plain (hplain k hk)
    obtain rfl : s' = s := Except.ok.inj (hs'.symm.trans hs)
    rwa [(hholds key).mp hkey]
  · intro hkey
    obtain ⟨s, hs, hholds⟩ := exists_keys_of_plain (hplain key hkey)
    exact ⟨key, hkey, s, hs, (hholds key).mpr rfl⟩

end KeyPattern

/-! ## Plain patterns for values -/

namespace Pattern

variable {p : String} {values : List String}

theorem ofText?_of_plain (hp : IsPlain p) : ofText? p = some (exact p) := by
  have hany : p ≠ "*" := by
    rintro rfl
    exact absurd hp (by decide)
  have hmeta : ¬p.toList.any isMeta = true := by
    rw [Bool.not_eq_true, List.any_eq_false]
    exact fun c hc ↦ Bool.not_eq_true _ ▸ hp c hc
  rw [ofText?, if_neg hany, if_neg hmeta]

theorem holds_exact_iff {text value : String} :
    (exact text).holds value = true ↔ value = text :=
  beq_iff_eq

theorem patterns_of_plain (hplain : ∀ v ∈ values, IsPlain v) :
    Predicate.patterns values = .ok (values.map exact) := by
  induction values with
  | nil => rfl
  | cons v values ih =>
    obtain ⟨hv, hvalues⟩ := List.forall_mem_cons.mp hplain
    rw [Predicate.patterns, Predicate.pattern, ofText?_of_plain hv, ih hvalues]
    rfl

theorem fitsAny_exact_iff {value : String} :
    Predicate.fitsAny (values.map exact) value = true ↔ value ∈ values := by
  simp [Predicate.fitsAny, holds_exact_iff]

/-- A text is compared with values as it is, and it is an expression that holds for the same values:
for the text and nothing else. -/
structure IsExact (p : String) : Prop where
  pattern : ofText? p = some (exact p)
  regex : ∃ r, AnchoredRegex.ofSource? p = some r ∧ ∀ value,
    (r.holds value = true ↔ value = p) ∧ (exact p).holds value = r.holds value

theorem isExact_of_plain (hp : IsPlain p) : IsExact p where
  pattern := ofText?_of_plain hp
  regex := by
    obtain ⟨r, hr, hholds⟩ := KeyPattern.exists_keys_of_plain hp
    refine ⟨r, ?_, fun value ↦ ⟨hholds value, ?_⟩⟩
    · rw [Predicate.keys, String.intercalate_singleton] at hr
      cases hsource : AnchoredRegex.ofSource? p with
      | none =>
        rw [hsource] at hr
        cases hr
      | some s =>
        rw [hsource] at hr
        exact congrArg some (Except.ok.inj hr)
    · rw [Bool.eq_iff_iff, holds_exact_iff, hholds]

end Pattern

/-! ## Conditions -/

/-- A condition compiles, and its answer on an element is whether a statement holds. -/
def Query.Condition.Asks {ε : Type} [ElementView ε] (units : UnitTable) (today : Date) (e : ε)
    (c : Condition) (statement : Prop) : Prop :=
  ∃ p, Predicate.ofCondition units c = .ok p ∧
    ((p.evaluate units today e).value = true ↔ statement)

namespace Predicate

open TagView Pattern

section Asks

variable {ε : Type} [ElementView ε] (units : UnitTable) (today : Date) (e : ε)
variable {keys values : List String}

theorem asks_matchesAny (hvalues : ∀ v ∈ values, IsPlain v) (key : String) :
    (Query.Condition.matchesAny key values).Asks units today e
      (∃ v ∈ values, tag? e key = some v) := by
  refine ⟨matchesAny key (values.map exact), ?_, ?_⟩
  · rw [ofCondition, patterns_of_plain hvalues]
    rfl
  · change (tag? e key).any (fitsAny (values.map exact)) = true ↔ _
    rw [Option.any_eq_true]
    simp only [fitsAny_exact_iff]
    exact exists_congr fun v ↦ and_comm

theorem asks_hasKeyLike (hne : keys ≠ []) (hkeys : ∀ k ∈ keys, IsPlain k) :
    (Query.Condition.hasKeyLike keys).Asks units today e (∃ tag ∈ tags e, tag.1 ∈ keys) := by
  obtain ⟨r, hr, hholds⟩ := KeyPattern.exists_keys_of_forall_plain hne hkeys
  refine ⟨hasKeyLike r, ?_, ?_⟩
  · rw [ofCondition, hr]
    rfl
  · change ((tags e).any fun tag ↦ r.holds tag.1) = true ↔ _
    rw [List.any_eq_true]
    simp only [hholds]

theorem asks_hasTagLike (hne : keys ≠ []) (hkeys : ∀ k ∈ keys, IsPlain k)
    (hvalues : ∀ v ∈ values, IsPlain v) :
    (Query.Condition.hasTagLike keys values).Asks units today e
      (∃ tag ∈ tags e, tag.1 ∈ keys ∧ tag.2 ∈ values) := by
  obtain ⟨r, hr, hholds⟩ := KeyPattern.exists_keys_of_forall_plain hne hkeys
  refine ⟨hasTagLike r (values.map exact), ?_, ?_⟩
  · rw [ofCondition, hr, patterns_of_plain hvalues]
    rfl
  · change ((tags e).any fun tag ↦ r.holds tag.1 && fitsAny (values.map exact) tag.2) = true ↔ _
    rw [List.any_eq_true]
    simp only [Bool.and_eq_true, hholds, fitsAny_exact_iff]

/-- **Plain patterns hold for themselves alone**, whether they are compared with a text as they are
or read as an expression, one by one or several of them at once. -/
theorem asks_of_plain (hne : keys ≠ []) (hkeys : ∀ k ∈ keys, IsPlain k)
    (hvalues : ∀ v ∈ values, IsPlain v) :
    (∀ p, IsPlain p → IsExact p) ∧
    (∀ key, (Query.Condition.matchesAny key values).Asks units today e
      (∃ v ∈ values, tag? e key = some v)) ∧
    (Query.Condition.hasKeyLike keys).Asks units today e (∃ tag ∈ tags e, tag.1 ∈ keys) ∧
    (Query.Condition.hasTagLike keys values).Asks units today e
      (∃ tag ∈ tags e, tag.1 ∈ keys ∧ tag.2 ∈ values) :=
  ⟨fun _ ↦ isExact_of_plain, asks_matchesAny units today e hvalues,
    asks_hasKeyLike units today e hne hkeys, asks_hasTagLike units today e hne hkeys hvalues⟩

end Asks

/-- Texts that mean something else in a verbose expression or in a class stand for themselves, and
so does the text without characters. -/
theorem asks_of_plain_blanks :
    let keys := ["", "#", "a b"]
    let values := ["-", "&&", "x\ny"]
    let e : Element := ⟨.node, 1, .ofList [("#", "x"), ("a b", "x\ny")], none⟩
    keys ≠ [] ∧ (∀ k ∈ keys, IsPlain k) ∧ (∀ v ∈ values, IsPlain v) ∧
      ∃ p, ofCondition .standard (.hasTagLike keys values) = .ok p ∧
        (p.evaluate .standard .first e).value = true := by
  intro keys values e
  have hne : keys ≠ [] := by decide
  have hkeys : ∀ k ∈ keys, IsPlain k := by decide
  have hvalues : ∀ v ∈ values, IsPlain v := by decide
  obtain ⟨-, -, -, p, hp, hanswer⟩ := asks_of_plain .standard .first e hne hkeys hvalues
  exact ⟨hne, hkeys, hvalues, p, hp, hanswer.mpr (by decide)⟩

end Predicate

end TagQuery
