import TagQuery.Filter.Pattern
import TagQuery.Proofs.Regex.Matching
import TagQuery.Proofs.Regex.Parser

/-!
# What anchoring a pattern does

An expression `p` is anchored as the text `^(?:p)$`. That text ought to be an expression just if `p`
is one, and then to occur in a value just if `p` denotes the value. Whether it does depends on the
closing parenthesis after `p` alone, that is, on what `Local` tells of the reader of expressions.

* If the parenthesis is left as it is and `p` has been read whole, both texts are expressions, and
  the anchors make the difference between occurring and denoting (`occurs_anchored_iff`).
* If `p` ends in a comment, the parenthesis is part of the comment, and the group stays open
  (`LeavesCommentOpen`).
* If `p` has a closing parenthesis too many, that one closes the group instead. Then `p` is no
  expression, but the anchored text may still be one (`ClosesAnchors`).

The latter two are the exceptions, and there are no others (`describesWhole_iff`).
-/

namespace TagQuery

open Regex.Parser

namespace Regex

/-- A text is an expression. -/
def IsValid (text : String) : Prop := (ofText? text).isSome

instance (text : String) : Decidable (IsValid text) :=
  inferInstanceAs (Decidable ((ofText? text).isSome = true))

/-- What an expression is read with at first. -/
def start : Context := ⟨.initial, []⟩

/-- A text is an expression if it is read to its end. -/
theorem ofChars?_eq_some_iff {cs : List Char} {r : Regex} :
    ofChars? cs = some r ↔ ∃ ctx, readChoice? start cs = some ((r, ctx), []) := by
  have hread : choice? (depthFor cs) ⟨.initial, []⟩ cs = readChoice? start cs := rfl
  rw [ofChars?, hread]
  cases readChoice? start cs with
  | none => simp
  | some x =>
    obtain ⟨⟨s, ctx⟩, rest⟩ := x
    cases rest <;> simp

theorem ofChars?_eq_none_iff {cs : List Char} :
    ofChars? cs = none ↔ ∀ x, readChoice? start cs ≠ some (x, []) := by
  rw [Option.eq_none_iff_forall_ne_some]
  refine ⟨fun h x hx ↦ h x.1 (ofChars?_eq_some_iff.mpr ⟨x.2, hx⟩), fun h r hr ↦ ?_⟩
  obtain ⟨ctx, hctx⟩ := ofChars?_eq_some_iff.mp hr
  exact h (r, ctx) hctx

/-! ## The anchored text -/

/-- A text of an expression with its anchors. -/
def anchoredChars (cs : List Char) : List Char := '^' :: '(' :: '?' :: ':' :: (cs ++ [')', '$'])

/-- An expression between the looks that its anchors are. -/
def anchored (r : Regex) : Regex := .seq (.seq (.seq .empty (.look .textStart)) r) (.look .textEnd)

/-- The first anchor and the opening of the group are read whatever follows them. -/
theorem readSequence?_anchoredChars (cs : List Char) :
    readSequence? start .empty none (anchoredChars cs) =
      (readChoice? start (cs ++ [')', '$'])).bind fun x ↦
        closed readSequence? start .empty (some (.look .textStart)) x.1 x.2 := by
  have hopen : opening? start ('?' :: ':' :: (cs ++ [')', '$']))
      = some (.group start, cs ++ [')', '$']) := rfl
  rw [readSequence?_eq]
  change readSequence? start .empty (some (.look .textStart)) _ = _
  rw [readSequence?_eq]
  change ((opening? start ('?' :: ':' :: (cs ++ [')', '$']))).bind _) = _
  rw [hopen]
  rfl

/-- The last anchor is read whatever precedes it. -/
theorem readSequence?_dollar (names : List String) (done r : Regex) :
    readSequence? { start with names } done (some r) ['$']
      = some ((.seq (.seq done r) (.look .textEnd), { start with names }), []) := by
  rw [readSequence?_eq]
  change readSequence? { start with names } (.seq done r) (some (.look .textEnd)) [] = _
  rw [readSequence?_eq]
  rfl

theorem ofChars?_anchoredChars {cs : List Char} {x : Regex × Context}
    (h : readChoice? start (cs ++ [')', '$']) = some (x, [')', '$'])) :
    ofChars? (anchoredChars cs) = some (anchored x.1) := by
  refine ofChars?_eq_some_iff.mpr ⟨{ start with names := x.2.names }, ?_⟩
  rw [readChoice?_eq, readSequence?_anchoredChars, h]
  change (readSequence? { start with names := x.2.names } _ (some x.1) ['$']).bind _ = _
  rw [readSequence?_dollar]
  rfl

/-- The group has to be closed. -/
theorem exists_of_ofChars?_anchoredChars {cs : List Char} {r : Regex}
    (h : ofChars? (anchoredChars cs) = some r) :
    ∃ x rest, readChoice? start (cs ++ [')', '$']) = some (x, ')' :: rest) := by
  obtain ⟨ctx, hctx⟩ := ofChars?_eq_some_iff.mp h
  rw [readChoice?_eq, readSequence?_anchoredChars] at hctx
  obtain ⟨y, hy, -⟩ := Option.bind_eq_some_iff.mp hctx
  obtain ⟨⟨x, rest⟩, hx, hclosed⟩ := Option.bind_eq_some_iff.mp hy
  by_cases hparen : rest.head? = some ')'
  · obtain ⟨rest, rfl⟩ : ∃ rest', rest = ')' :: rest' := List.head?_eq_some_iff.mp hparen
    exact ⟨x, rest, hx⟩
  · replace hclosed : closed readSequence? start _ _ x rest = some y := hclosed
    rw [closed_of_head? hparen] at hclosed
    cases hclosed

/-! ## What precedes a parenthesis -/

/-- The expression before a parenthesis that is left over is read to its end. -/
theorem readChoice?_of_append {x y : List Char} {a : Regex × Context}
    (h : readChoice? start (x ++ ')' :: y) = some (a, ')' :: y)) :
    readChoice? start x = some (a, []) ∧ readChoice? start (x ++ [')']) = some (a, [')']) := by
  have htoo : ¬(')' :: y <:+ y) := fun hsuffix ↦ absurd hsuffix.length_le (Nat.not_succ_le_self _)
  cases local_readChoice? start x with
  | same b rest hx happend =>
    have heq := h.symm.trans (happend y)
    obtain ⟨rfl, hrest⟩ := Prod.mk.inj (Option.some.inj heq)
    obtain rfl : rest = [] := List.append_left_eq_self.mp hrest.symm
    exact ⟨hx, happend []⟩
  | comment b hx hline hbreak => exact absurd (hbreak y a _ h) htoo
  | stuck hx hon => exact absurd (hon y a _ h) htoo

/-- If something of an expression is left over and the anchored text is an expression all the same,
the rest starts with a parenthesis, and what precedes it is an expression. -/
theorem exists_append_of_leftOver {cs rest : List Char} {c : Char} {a : Regex × Context} {r : Regex}
    (h : readChoice? start cs = some (a, c :: rest))
    (hdollar : readChoice? start (cs ++ [')', '$']) = some (a, c :: rest ++ [')', '$']))
    (hr : ofChars? (anchoredChars cs) = some r) :
    ∃ x y, cs = x ++ ')' :: y ∧ (ofChars? x).isSome ∧ ofChars? (x ++ [')']) = none := by
  obtain ⟨b, rest', hb⟩ := exists_of_ofChars?_anchoredChars hr
  obtain rfl : c = ')' := by
    cases hdollar.symm.trans hb
    rfl
  obtain ⟨x, rfl⟩ := shrinks_readChoice? start cs a _ h
  obtain ⟨hvalid, hparen⟩ := readChoice?_of_append h
  refine ⟨x, rest, rfl, ?_, ofChars?_eq_none_iff.mpr fun y hy ↦ ?_⟩
  · rw [ofChars?_eq_some_iff.mpr ⟨a.2, hvalid⟩]
    rfl
  · cases hparen.symm.trans hy

/-- How an expression and the anchored text can go together. -/
theorem ofChars?_anchoredChars_cases (cs : List Char) :
    (∃ r, ofChars? cs = some r ∧ ofChars? (anchoredChars cs) = some (anchored r) ∧
      ofChars? (cs ++ [')']) = none) ∨
    (∃ r, ofChars? cs = some r ∧ ofChars? (anchoredChars cs) = none ∧
      ofChars? (cs ++ [')']) = some r) ∨
    ofChars? cs = none ∧ ∀ r, ofChars? (anchoredChars cs) = some r →
      ∃ x y, cs = x ++ ')' :: y ∧ (ofChars? x).isSome ∧ ofChars? (x ++ [')']) = none := by
  cases local_readChoice? start cs with
  | same a rest h happend =>
    cases rest with
    | nil =>
      have hanchored := ofChars?_anchoredChars (happend ['$'])
      refine .inl ⟨a.1, ofChars?_eq_some_iff.mpr ⟨a.2, h⟩, hanchored, ?_⟩
      refine ofChars?_eq_none_iff.mpr fun x hx ↦ ?_
      cases (happend []).symm.trans hx
    | cons c rest =>
      refine .inr (.inr ⟨ofChars?_eq_none_iff.mpr fun x hx ↦ ?_, fun r ↦ ?_⟩)
      · cases h.symm.trans hx
      · exact exists_append_of_leftOver h (happend ['$'])
  | comment a h hline hbreak =>
    -- The comment takes the parenthesis and the last anchor, and the group is not closed.
    have hdollar := hline ['$'] (by decide)
    refine .inr (.inl ⟨a.1, ofChars?_eq_some_iff.mpr ⟨a.2, h⟩, ?_, ?_⟩)
    · refine Option.eq_none_iff_forall_ne_some.mpr fun r hr ↦ ?_
      obtain ⟨x, rest, hx⟩ := exists_of_ofChars?_anchoredChars hr
      cases hdollar.symm.trans hx
    · exact ofChars?_eq_some_iff.mpr ⟨a.2, hline [] (by decide)⟩
  | stuck h hon =>
    refine .inr (.inr ⟨ofChars?_eq_none_iff.mpr fun x hx ↦ ?_, fun r hr ↦ ?_⟩)
    · cases h.symm.trans hx
    · -- With the parenthesis used up, there is none left to close the group.
      obtain ⟨x, rest, hx⟩ := exists_of_ofChars?_anchoredChars hr
      obtain ⟨front, heq⟩ := hon ['$'] x _ hx
      match front with
      | [] => cases heq
      | [_] => cases heq
      | _ :: _ :: front => cases heq

/-- A text with a closing parenthesis too many is no expression. -/
theorem ofChars?_append_eq_none {x : List Char} (hx : (ofChars? x).isSome)
    (hparen : ofChars? (x ++ [')']) = none) (y : List Char) : ofChars? (x ++ ')' :: y) = none := by
  obtain ⟨r, hr⟩ := Option.isSome_iff_exists.mp hx
  obtain ⟨ctx, hctx⟩ := ofChars?_eq_some_iff.mp hr
  refine ofChars?_eq_none_iff.mpr fun z hz ↦ ?_
  cases local_readChoice? start x with
  | same a rest h happend =>
    cases h.symm.trans hctx
    cases (happend y).symm.trans hz
  | comment a h hline hbreak =>
    rw [ofChars?_eq_some_iff.mpr ⟨a.2, hline [] (by decide)⟩] at hparen
    cases hparen
  | stuck h hon => cases h.symm.trans hctx

/-! ## Occurring between anchors -/

/-- An expression occurs between anchors just if it leads from the start of the text to its end. -/
theorem occurs_anchored_iff (r : Regex) (text : List Char) :
    (anchored r).Occurs text ↔ r.Denotes text := by
  constructor
  · rintro ⟨before, middle, after, rfl, m, ⟨_, ⟨_, rfl, rfl, hstart⟩, hr⟩, rfl, hend⟩
    have hbefore : before = [] := by
      simpa [Look.holds] using hstart
    have hafter : after = [] := by
      simpa [Look.holds] using hend
    rw [hbefore, hafter] at hr ⊢
    simpa [Denotes] using hr
  · intro h
    refine ⟨[], text, [], by simp, ⟨text.reverse, []⟩, ⟨⟨[], text⟩, ⟨_, rfl, ?_⟩, h⟩, ?_⟩
    · exact ⟨by simp, rfl⟩
    · exact ⟨by simp, by simp [Look.holds]⟩

end Regex

/-! ## Patterns -/

namespace Pattern

open Regex (IsValid)

theorem isValid_iff {text : String} :
    IsValid text ↔ ∃ r, Regex.ofChars? text.toList = some r :=
  Option.isSome_iff_exists

/-- A text is a pattern just if it is an expression, and the pattern then holds for the values that
the expression denotes. -/
def DescribesWhole (p : String) : Prop :=
  ((ofText? p).isSome ↔ IsValid p) ∧
    ∀ r pattern, Regex.ofText? p = some r → ofText? p = some pattern →
      ∀ value : String, pattern.holds value = true ↔ r.Denotes value.toList

/-- An expression ends in a comment, which a parenthesis after it becomes part of. -/
def LeavesCommentOpen (p : String) : Prop := IsValid p ∧ IsValid (p ++ ")")

/-- An expression and a closing parenthesis come first, and the anchored text is an expression all
the same. -/
def ClosesAnchors (p : String) : Prop :=
  ∃ x y, p = x ++ ")" ++ y ∧ IsValid x ∧ ¬LeavesCommentOpen x ∧ IsValid (AnchoredRegex.anchor p)

theorem toList_anchor (p : String) :
    (AnchoredRegex.anchor p).toList = Regex.anchoredChars p.toList := by
  simp [AnchoredRegex.anchor, Regex.anchoredChars]

theorem ofText?_of_isMeta {p : String} (hany : p ≠ "*") (hmeta : p.toList.any isMeta = true) :
    ofText? p = (Regex.ofChars? (Regex.anchoredChars p.toList)).map fun r ↦ regex ⟨p, r⟩ := by
  rw [ofText?, if_neg hany, if_pos hmeta, AnchoredRegex.ofSource?, Regex.ofText?, toList_anchor,
    Option.map_map]
  rfl

/-- A pattern that is read as an expression is one just if the anchored text is. -/
theorem isSome_ofText?_iff {p : String} (hany : p ≠ "*") (hmeta : p.toList.any isMeta = true) :
    (ofText? p).isSome ↔ IsValid (AnchoredRegex.anchor p) := by
  rw [ofText?_of_isMeta hany hmeta, Option.isSome_map, IsValid, Regex.ofText?, toList_anchor]

/-- Where the text and the anchored text are both expressions, they agree on all values. -/
theorem holds_iff_denotes {p : String} (hany : p ≠ "*") (hmeta : p.toList.any isMeta = true)
    {r : Regex} {pattern : Pattern} (hr : Regex.ofText? p = some r) (hp : ofText? p = some pattern)
    (value : String) : pattern.holds value = true ↔ r.Denotes value.toList := by
  rw [ofText?_of_isMeta hany hmeta] at hp
  obtain ⟨s, hs, rfl⟩ := Option.map_eq_some_iff.mp hp
  have hanchored : s = Regex.anchored r := by
    rcases Regex.ofChars?_anchoredChars_cases p.toList with
      ⟨r', hr', hs', -⟩ | ⟨_, -, hnone, -⟩ | ⟨hnone, -⟩
    · cases hr.symm.trans hr'
      exact Option.some.inj (hs.symm.trans hs')
    · cases hs.symm.trans hnone
    · cases hr.symm.trans hnone
  rw [hanchored]
  exact (Regex.matchesIn_iff_occurs _ _).trans (Regex.occurs_anchored_iff r _)

theorem not_isValid_of_closed {x : String} (hx : IsValid x) (hcomment : ¬LeavesCommentOpen x)
    (y : String) : ¬IsValid (x ++ ")" ++ y) := by
  have hparen : Regex.ofChars? (x.toList ++ [')']) = none := by
    rw [← Option.not_isSome_iff_eq_none]
    intro h
    refine hcomment ⟨hx, ?_⟩
    rw [IsValid, Regex.ofText?, String.toList_append]
    exact h
  have hnone := Regex.ofChars?_append_eq_none hx hparen y.toList
  rw [IsValid, Regex.ofText?, String.toList_append, String.toList_append, List.append_assoc]
  exact Option.not_isSome_iff_eq_none.mpr hnone

theorem not_isValid_anchor {p : String} (h : LeavesCommentOpen p) :
    ¬IsValid (AnchoredRegex.anchor p) := by
  obtain ⟨hp, hparen⟩ := h
  rw [isValid_iff] at hp
  rw [isValid_iff, String.toList_append] at hparen
  rw [isValid_iff, toList_anchor]
  obtain ⟨r, hr⟩ := hp
  obtain ⟨s, hs⟩ := hparen
  rintro ⟨t, ht⟩
  rcases Regex.ofChars?_anchoredChars_cases p.toList with
    ⟨_, -, -, hnone⟩ | ⟨_, -, hnone, -⟩ | ⟨hnone, -⟩
  · cases hs.symm.trans hnone
  · cases ht.symm.trans hnone
  · cases hr.symm.trans hnone

theorem isValid_anchor_or_leavesCommentOpen {p : String} (h : IsValid p) :
    IsValid (AnchoredRegex.anchor p) ∨ LeavesCommentOpen p := by
  obtain ⟨r, hr⟩ := isValid_iff.mp h
  rcases Regex.ofChars?_anchoredChars_cases p.toList with
    ⟨s, -, hs, -⟩ | ⟨s, -, -, hs⟩ | ⟨hnone, -⟩
  · refine .inl (isValid_iff.mpr ⟨Regex.anchored s, ?_⟩)
    rw [toList_anchor, hs]
  · refine .inr ⟨h, isValid_iff.mpr ⟨s, ?_⟩⟩
    rw [String.toList_append]
    exact hs
  · cases hr.symm.trans hnone

theorem isValid_or_closesAnchors {p : String} (h : IsValid (AnchoredRegex.anchor p)) :
    IsValid p ∨ ClosesAnchors p := by
  obtain ⟨r, hr⟩ := isValid_iff.mp h
  rw [toList_anchor] at hr
  rcases Regex.ofChars?_anchoredChars_cases p.toList with
    ⟨s, hs, -⟩ | ⟨s, hs, -⟩ | ⟨-, hcloses⟩
  · exact .inl (isValid_iff.mpr ⟨s, hs⟩)
  · exact .inl (isValid_iff.mpr ⟨s, hs⟩)
  · obtain ⟨x, y, heq, hx, hparen⟩ := hcloses r hr
    refine .inr ⟨.ofList x, .ofList y, ?_, ?_, fun hcomment ↦ ?_, h⟩
    · exact String.toList_inj.mp (by simp [heq])
    · rw [IsValid, Regex.ofText?, String.toList_ofList]
      exact hx
    · obtain ⟨s, hs⟩ := isValid_iff.mp hcomment.2
      rw [String.toList_append, String.toList_ofList] at hs
      cases hs.symm.trans hparen

/-- **A pattern describes whole values, unless it leaves a comment open or closes its anchors.** -/
theorem describesWhole_iff {p : String} (hany : p ≠ "*") (hmeta : p.toList.any isMeta = true) :
    DescribesWhole p ↔ ¬LeavesCommentOpen p ∧ ¬ClosesAnchors p := by
  have hanchor := isSome_ofText?_iff hany hmeta
  constructor
  · rintro ⟨hvalid, -⟩
    refine ⟨fun hcomment ↦ ?_, fun ⟨x, y, heq, hx, hcomment, hy⟩ ↦ ?_⟩
    · exact not_isValid_anchor hcomment (hanchor.mp (hvalid.mpr hcomment.1))
    · refine not_isValid_of_closed hx hcomment y ?_
      rw [← heq]
      exact hvalid.mp (hanchor.mpr hy)
  · rintro ⟨hcomment, hcloses⟩
    refine ⟨?_, fun r pattern hr hp ↦ holds_iff_denotes hany hmeta hr hp⟩
    rw [hanchor]
    refine ⟨fun h ↦ ?_, fun h ↦ ?_⟩
    · exact (isValid_or_closesAnchors h).resolve_right hcloses
    · exact (isValid_anchor_or_leavesCommentOpen h).resolve_right hcomment

theorem describesWhole_iff_choice :
    ("a|b" ≠ "*" ∧ "a|b".toList.any isMeta = true) ∧
      (DescribesWhole "a|b" ↔ ¬LeavesCommentOpen "a|b" ∧ ¬ClosesAnchors "a|b") :=
  ⟨by decide, describesWhole_iff (by decide) (by decide)⟩

example : LeavesCommentOpen "(?x)a#" := ⟨by decide +kernel, by decide +kernel⟩

example : ClosesAnchors "a)|(b" :=
  ⟨"a", "|(b", by decide, by decide +kernel, fun h ↦ absurd h.2 (by decide +kernel),
    by decide +kernel⟩

/-- The text `a)|(b` is a pattern, for its parentheses close the anchors' group and open one of
their own, but it is no expression. -/
theorem not_describesWhole : ¬∀ p : String, p ≠ "*" → p.toList.any isMeta = true →
    DescribesWhole p := by
  intro h
  have hvalid : IsValid "a)|(b" := (h "a)|(b" (by decide) (by decide)).1.mp (by decide +kernel)
  exact absurd hvalid (by decide +kernel)

end Pattern

end TagQuery
