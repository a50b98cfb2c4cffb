import TagQuery.Filter.Predicate
import TagQuery.Proofs.Except
import TagQuery.Proofs.Filter.Anchoring
import TagQuery.Proofs.Regex.Choice

/-!
# Alternatives for keys

The alternatives of a pattern for values are read one by one. Those of a pattern for keys are joined
by bars and read as one expression, and so one of them may bear on the others: its flags hold for
all that come after it, a name that it gives to a group cannot be given again, and a parenthesis or
a bracket that it leaves open may be closed by its neighbour.

An alternative is *self-contained* if it ends before a closing parenthesis, with the flags that
there were at first. It is *faulty* if it is no part of an expression whatever comes after it. Lists
of such alternatives are as good as their members (`Independent`) just if one of them is faulty, and
all fail alike, or no two of them give a name twice.

## One after the other

Reading goes from left to right. Before a bar a self-contained alternative ends as it does before a
closing parenthesis; what follows is read with the names of its groups besides, and is otherwise
read from the start. The list is therefore read by induction, from its last alternative on.
-/

namespace TagQuery

open Regex Regex.Parser

namespace KeyPattern

/-- What an alternative is read as before a closing parenthesis, if it ends there. -/
def enclosed? (k : String) : Option (Regex × Context) :=
  match readChoice? start (k.toList ++ [')']) with
  | some (x, [')']) => some x
  | _ => none

/-- The names that an alternative gives to groups. -/
def groupNames (k : String) : List String := ((enclosed? k).map (·.2.names)).getD []

/-- An alternative ends before a closing parenthesis, and leaves the flags as they were. -/
def IsSelfContained (k : String) : Prop := (enclosed? k).any (·.2.flags = .initial) = true

/-- An alternative is no part of an expression, whatever comes after it. -/
def IsFaulty (k : String) : Prop := ∀ rest, readChoice? start (k.toList ++ rest) = none

/-- Two alternatives give no name twice. -/
def NamesApart (k k' : String) : Prop := ∀ name ∈ groupNames k, name ∉ groupNames k'

instance (k : String) : Decidable (IsSelfContained k) :=
  inferInstanceAs (Decidable (_ = true))

instance (k k' : String) : Decidable (NamesApart k k') :=
  inferInstanceAs (Decidable (∀ name ∈ groupNames k, name ∉ groupNames k'))

/-- The alternatives of a pattern are as good together as each of them alone. -/
structure IsFaithful (ks : List String) : Prop where
  compiles : (∃ r, Predicate.keys ks = .ok r) ↔ ∀ k ∈ ks, ∃ r, Predicate.keys [k] = .ok r
  holds : ∀ r, Predicate.keys ks = .ok r → ∀ key,
    r.holds key = true ↔ ∃ k ∈ ks, ∃ s, Predicate.keys [k] = .ok s ∧ s.holds key = true

/-- The alternatives of a pattern do not bear on one another, and so their order does not matter. -/
structure Independent (ks : List String) : Prop extends IsFaithful ks where
  order : ∀ ks', ks'.Perm ks →
    ((∃ r', Predicate.keys ks' = .ok r') ↔ ∃ r, Predicate.keys ks = .ok r) ∧
    ∀ r r', Predicate.keys ks = .ok r → Predicate.keys ks' = .ok r' →
      ∀ key, r'.holds key = r.holds key

/-! ## Single alternatives -/

section Single

variable {k : String} {x : Regex × Context}

theorem enclosed?_eq_some_iff :
    enclosed? k = some x ↔ readChoice? start (k.toList ++ [')']) = some (x, [')']) := by
  unfold enclosed?
  constructor
  · intro h
    split at h
    · cases h
      assumption
    · cases h
  · intro h
    rw [h]
    rfl

/-- What follows the parenthesis makes no difference. -/
theorem readChoice?_of_enclosed (h : enclosed? k = some x) (u : List Char) :
    readChoice? start (k.toList ++ ')' :: u) = some (x, ')' :: u) := by
  have hread := enclosed?_eq_some_iff.mp h
  have halone := (readChoice?_of_append hread).1
  cases local_readChoice? start k.toList with
  | same a rest h' happend =>
    cases h'.symm.trans halone
    exact happend u
  | comment a h' hline =>
    cases (hline [] List.not_mem_nil).symm.trans hread
  | stuck h' =>
    cases h'.symm.trans halone

theorem exists_of_isSelfContained (h : IsSelfContained k) :
    ∃ r, enclosed? k = some (r, ⟨.initial, groupNames k⟩) := by
  unfold IsSelfContained at h
  unfold groupNames
  cases hk : enclosed? k with
  | none =>
    rw [hk] at h
    cases h
  | some x =>
    rw [hk] at h
    obtain ⟨r, flags, names⟩ := x
    obtain rfl : flags = .initial := of_decide_eq_true h
    exact ⟨r, rfl⟩

theorem not_isFaulty_of_isSelfContained (h : IsSelfContained k) : ¬IsFaulty k := by
  intro hfault
  obtain ⟨r, hr⟩ := exists_of_isSelfContained h
  cases (readChoice?_of_enclosed hr []).symm.trans (hfault _)

end Single

/-! ## Joined alternatives -/

/-- The text of several alternatives. -/
def joined (ks : List String) : List Char := ("|".intercalate ks).toList

theorem joined_singleton (k : String) : joined [k] = k.toList := by
  rw [joined, String.intercalate_singleton]

theorem joined_cons (k : String) {ks : List String} (hne : ks ≠ []) :
    joined (k :: ks) = k.toList ++ '|' :: joined ks := by
  rw [joined, joined, String.intercalate_cons_of_ne_nil hne, String.toList_append,
    String.toList_append, List.append_assoc]
  rfl

/-- A self-contained alternative and a bar are read off the front of a text. -/
theorem readChoice?_bar {k : String} {r : Regex} {names : List String}
    (h : enclosed? k = some (r, ⟨.initial, names⟩)) (u : List Char) :
    ∃ join : Regex → Regex,
      (∀ s text, (join s).Denotes text ↔ r.Denotes text ∨ s.Denotes text) ∧
      readChoice? start (k.toList ++ '|' :: u)
        = (Reader.make (readChoice? start u) (readBesides? names)).map
          fun y ↦ ((join y.1.1, y.1.2), y.2) := by
  obtain ⟨join, hjoin, hread⟩ := exists_join_of_readChoice? (readChoice?_of_enclosed h u)
  refine ⟨join, hjoin, ?_⟩
  have hstart : (⟨.initial, names⟩ : Context) = start.besides names := rfl
  have hfresh : start.IsFresh names := List.forall_mem_nil _
  rw [hread, hstart, readChoice?_besides hfresh]

section Joined

variable {ks : List String}

/-- Self-contained alternatives are read as the choice between them, with the names of all, if no
two of them give a name twice. -/
theorem readChoice?_joined (hne : ks ≠ []) (hself : ∀ k ∈ ks, IsSelfContained k)
    (hapart : ks.Pairwise NamesApart) (u : List Char) :
    ∃ r names, readChoice? start (joined ks ++ ')' :: u)
        = some ((r, ⟨.initial, names⟩), ')' :: u) ∧
      (∀ name, name ∈ names ↔ ∃ k ∈ ks, name ∈ groupNames k) ∧
      ∀ text, r.Denotes text ↔ ∃ k ∈ ks, ∃ x, enclosed? k = some x ∧ x.1.Denotes text := by
  induction ks with
  | nil => exact absurd rfl hne
  | cons k ks ih =>
    obtain ⟨hk, hks⟩ := List.forall_mem_cons.mp hself
    obtain ⟨hhead, htail⟩ := List.pairwise_cons.mp hapart
    obtain ⟨r, hr⟩ := exists_of_isSelfContained hk
    have hdenotes : ∀ text, r.Denotes text ↔ ∃ x, enclosed? k = some x ∧ x.1.Denotes text := by
      intro text
      rw [hr]
      simp
    by_cases hempty : ks = []
    · subst hempty
      refine ⟨r, groupNames k, ?_, fun name ↦ ?_, fun text ↦ ?_⟩
      · rw [joined_singleton]
        exact readChoice?_of_enclosed hr u
      · simp
      · rw [hdenotes]
        simp
    · obtain ⟨s, names, hs, hnames, hsdenotes⟩ := ih hempty hks htail
      obtain ⟨join, hjoin, hread⟩ := readChoice?_bar hr (joined ks ++ ')' :: u)
      refine ⟨join s, names ++ groupNames k, ?_, fun name ↦ ?_, fun text ↦ ?_⟩
      · have hfresh : Context.IsFresh ⟨.initial, names⟩ (groupNames k) := by
          intro name hname hmem
          obtain ⟨k', hk', hname⟩ := (hnames name).mp hname
          exact hhead k' hk' name hmem hname
        rw [joined_cons k hempty, List.append_assoc, List.cons_append, hread, hs,
          make_readBesides hfresh]
        rfl
      · rw [List.mem_append, hnames]
        simp [or_comm]
      · rw [hjoin, hdenotes, hsdenotes]
        simp

/-- If two alternatives give a name twice, the text is no expression. -/
theorem readChoice?_joined_eq_none (hself : ∀ k ∈ ks, IsSelfContained k)
    (hclash : ¬ks.Pairwise NamesApart) (u : List Char) :
    readChoice? start (joined ks ++ ')' :: u) = none := by
  induction ks with
  | nil => exact absurd .nil hclash
  | cons k ks ih =>
    obtain ⟨hk, hks⟩ := List.forall_mem_cons.mp hself
    have hne : ks ≠ [] := by
      rintro rfl
      exact hclash (List.pairwise_singleton _ _)
    obtain ⟨r, hr⟩ := exists_of_isSelfContained hk
    obtain ⟨join, -, hread⟩ := readChoice?_bar hr (joined ks ++ ')' :: u)
    rw [joined_cons k hne, List.append_assoc, List.cons_append, hread]
    by_cases htail : ks.Pairwise NamesApart
    · -- The name that is given twice is one of the first alternative.
      obtain ⟨s, names, hs, hnames, -⟩ := readChoice?_joined hne hks htail u
      have hstale : ¬Context.IsFresh ⟨.initial, names⟩ (groupNames k) := by
        intro hfresh
        refine hclash (List.pairwise_cons.mpr ⟨fun k' hk' name hname hmem ↦ ?_, htail⟩)
        exact hfresh name ((hnames name).mpr ⟨k', hk', hmem⟩) hname
      rw [hs]
      change (((Context.besides? _ _).map _).map _).map _ = none
      rw [Context.besides?_eq_none_iff.mpr hstale]
      rfl
    · rw [ih hks htail]
      rfl

/-- If an alternative is faulty, the text is no expression. -/
theorem readChoice?_joined_of_isFaulty (h : ∀ k ∈ ks, IsSelfContained k ∨ IsFaulty k)
    (hfaulty : ∃ k ∈ ks, IsFaulty k) (u : List Char) :
    readChoice? start (joined ks ++ u) = none := by
  induction ks with
  | nil =>
    obtain ⟨k, hk, -⟩ := hfaulty
    cases hk
  | cons k ks ih =>
    obtain ⟨hk, hks⟩ := List.forall_mem_cons.mp h
    by_cases hempty : ks = []
    · subst hempty
      obtain ⟨k', hk', hfault⟩ := hfaulty
      rw [List.mem_singleton.mp hk'] at hfault
      rw [joined_singleton]
      exact hfault u
    · rw [joined_cons k hempty, List.append_assoc]
      rcases hk with hself | hfault
      · have htail : ∃ k' ∈ ks, IsFaulty k' := by
          obtain ⟨k', hk', hfault⟩ := hfaulty
          rcases List.mem_cons.mp hk' with rfl | hmem
          · exact absurd hfault (not_isFaulty_of_isSelfContained hself)
          · exact ⟨k', hmem, hfault⟩
        obtain ⟨r, hr⟩ := exists_of_isSelfContained hself
        obtain ⟨join, -, hread⟩ := readChoice?_bar hr (joined ks ++ u)
        rw [List.cons_append, hread, ih hks htail]
        rfl
      · exact hfault _

end Joined

/-! ## Compiled patterns -/

section Compiled

variable {ks : List String} {k : String} {x : Regex × Context}

theorem keys_eq_ok_iff {a : AnchoredRegex} :
    Predicate.keys ks = .ok a ↔
      ∃ r, ofChars? (anchoredChars (joined ks)) = some r ∧ ⟨"|".intercalate ks, r⟩ = a := by
  have hsource : AnchoredRegex.ofSource? ("|".intercalate ks) =
      (ofChars? (anchoredChars (joined ks))).map (⟨"|".intercalate ks, ·⟩) := by
    rw [AnchoredRegex.ofSource?, ofText?, Pattern.toList_anchor, joined]
  rw [Predicate.keys, hsource]
  cases ofChars? (anchoredChars (joined ks)) with
  | none => simp
  | some r => simp

/-- What is read before a parenthesis is what keys are compared with as a whole. -/
theorem exists_keys_of_readChoice?
    (h : readChoice? start (joined ks ++ [')', '$']) = some (x, [')', '$'])) :
    ∃ a, Predicate.keys ks = .ok a ∧ ∀ key, a.holds key = true ↔ x.1.Denotes key.toList := by
  refine ⟨_, keys_eq_ok_iff.mpr ⟨_, ofChars?_anchoredChars h, rfl⟩, fun key ↦ ?_⟩
  exact (matchesIn_iff_occurs _ _).trans (occurs_anchored_iff x.1 _)

theorem keys_ne_ok_of_readChoice? (h : readChoice? start (joined ks ++ [')', '$']) = none)
    (a : AnchoredRegex) : Predicate.keys ks ≠ .ok a := by
  intro ha
  obtain ⟨r, hr, -⟩ := keys_eq_ok_iff.mp ha
  obtain ⟨y, rest, hread⟩ := exists_of_ofChars?_anchoredChars hr
  cases h.symm.trans hread

theorem exists_keys_of_enclosed (h : enclosed? k = some x) :
    ∃ a, Predicate.keys [k] = .ok a ∧ ∀ key, a.holds key = true ↔ x.1.Denotes key.toList := by
  refine exists_keys_of_readChoice? ?_
  rw [joined_singleton]
  exact readChoice?_of_enclosed h ['$']

theorem exists_keys_of_isSelfContained (h : IsSelfContained k) :
    ∃ a, Predicate.keys [k] = .ok a := by
  obtain ⟨r, hr⟩ := exists_of_isSelfContained h
  obtain ⟨a, ha, -⟩ := exists_keys_of_enclosed hr
  exact ⟨a, ha⟩

end Compiled

section Faithful

variable {ks ks' : List String}

theorem isFaithful_of_apart (hne : ks ≠ []) (hself : ∀ k ∈ ks, IsSelfContained k)
    (hapart : ks.Pairwise NamesApart) : IsFaithful ks := by
  obtain ⟨r, names, hread, -, hdenotes⟩ := readChoice?_joined hne hself hapart ['$']
  obtain ⟨a, ha, hholds⟩ := exists_keys_of_readChoice? hread
  refine ⟨⟨fun _ k hk ↦ exists_keys_of_isSelfContained (hself k hk), fun _ ↦ ⟨a, ha⟩⟩, ?_⟩
  intro a' ha' key
  obtain rfl : a = a' := Except.ok.inj (ha.symm.trans ha')
  rw [hholds, hdenotes]
  refine exists_congr fun k ↦ and_congr_right fun hk ↦ ?_
  obtain ⟨s, hs⟩ := exists_of_isSelfContained (hself k hk)
  obtain ⟨b, hb, hbholds⟩ := exists_keys_of_enclosed hs
  rw [hs, hb]
  simp [hbholds]

theorem isFaithful_of_isFaulty (h : ∀ k ∈ ks, IsSelfContained k ∨ IsFaulty k)
    (hfaulty : ∃ k ∈ ks, IsFaulty k) : IsFaithful ks := by
  have hnone := keys_ne_ok_of_readChoice? (readChoice?_joined_of_isFaulty h hfaulty [')', '$'])
  refine ⟨⟨fun ⟨a, ha⟩ ↦ absurd ha (hnone a), fun hall ↦ ?_⟩, fun a ha ↦ absurd ha (hnone a)⟩
  obtain ⟨k, hk, hfault⟩ := hfaulty
  obtain ⟨a, ha⟩ := hall k hk
  refine absurd ha (keys_ne_ok_of_readChoice? ?_ a)
  rw [joined_singleton]
  exact hfault _

theorem IsFaithful.order (h : IsFaithful ks) (h' : IsFaithful ks') (hperm : ks'.Perm ks) :
    ((∃ r', Predicate.keys ks' = .ok r') ↔ ∃ r, Predicate.keys ks = .ok r) ∧
    ∀ r r', Predicate.keys ks = .ok r → Predicate.keys ks' = .ok r' →
      ∀ key, r'.holds key = r.holds key := by
  refine ⟨?_, fun r r' hr hr' key ↦ ?_⟩
  · rw [h.compiles, h'.compiles]
    simp only [hperm.mem_iff]
  · rw [Bool.eq_iff_iff, h.holds r hr, h'.holds r' hr']
    simp only [hperm.mem_iff]

end Faithful

section Independence

variable {ks : List String}

theorem NamesApart.symm {k k' : String} (h : NamesApart k k') : NamesApart k' k :=
  fun name hname hmem ↦ h name hmem hname

/-- A single alternative has no other one to bear on. -/
theorem independent_singleton (k : String) : Independent [k] where
  compiles := by simp
  holds r hr key := by simp [hr]
  order ks' hperm := by
    rw [List.perm_singleton.mp hperm]
    refine ⟨Iff.rfl, fun r r' hr hr' key ↦ ?_⟩
    rw [Except.ok.inj (hr.symm.trans hr')]

theorem independent_of_isFaulty (h : ∀ k ∈ ks, IsSelfContained k ∨ IsFaulty k)
    (hfaulty : ∃ k ∈ ks, IsFaulty k) : Independent ks := by
  refine ⟨isFaithful_of_isFaulty h hfaulty, fun ks' hperm ↦ ?_⟩
  refine (isFaithful_of_isFaulty h hfaulty).order (isFaithful_of_isFaulty ?_ ?_) hperm
  · exact fun k hk ↦ h k (hperm.mem_iff.mp hk)
  · obtain ⟨k, hk, hfault⟩ := hfaulty
    exact ⟨k, hperm.mem_iff.mpr hk, hfault⟩

theorem independent_of_apart (hne : ks ≠ []) (hself : ∀ k ∈ ks, IsSelfContained k)
    (hapart : ks.Pairwise NamesApart) : Independent ks := by
  refine ⟨isFaithful_of_apart hne hself hapart, fun ks' hperm ↦ ?_⟩
  refine (isFaithful_of_apart hne hself hapart).order (isFaithful_of_apart ?_ ?_ ?_) hperm
  · rintro rfl
    exact hne hperm.symm.eq_nil
  · exact fun k hk ↦ hself k (hperm.mem_iff.mp hk)
  · exact (hperm.pairwise_iff fun hkk' ↦ hkk'.symm).mpr hapart

/-- A name that is given twice is a fault of the whole, though each alternative compiles. -/
theorem Independent.names_apart (h : Independent ks) (hself : ∀ k ∈ ks, IsSelfContained k) :
    ks.Pairwise NamesApart := by
  by_contra hclash
  have hnone := readChoice?_joined_eq_none hself hclash ['$']
  obtain ⟨a, ha⟩ := h.compiles.mpr fun k hk ↦ exists_keys_of_isSelfContained (hself k hk)
  exact keys_ne_ok_of_readChoice? hnone a ha

/-- **Alternatives for keys are independent if they are self-contained** and give no name twice, or
one of them is faulty. Of alternatives that are self-contained or faulty, no others are.

A single alternative is independent whatever it is. Nothing is said of several, if one of them sets
flags for those after it, as `(?i)a` does, or leaves a group, a bracket or a comment open: whether
that makes a difference depends on the others. -/
theorem independent_iff (hne : ks ≠ [])
    (h : ks.length = 1 ∨ ∀ k ∈ ks, IsSelfContained k ∨ IsFaulty k) :
    Independent ks ↔ (∃ k ∈ ks, IsFaulty k) ∨ ks.Pairwise NamesApart := by
  rcases h with hone | h
  · obtain ⟨k, rfl⟩ := List.length_eq_one_iff.mp hone
    exact iff_of_true (independent_singleton k) (.inr (List.pairwise_singleton _ _))
  · by_cases hfaulty : ∃ k ∈ ks, IsFaulty k
    · exact iff_of_true (independent_of_isFaulty h hfaulty) (.inl hfaulty)
    · have hself : ∀ k ∈ ks, IsSelfContained k :=
        fun k hk ↦ (h k hk).resolve_right fun hfault ↦ hfaulty ⟨k, hk, hfault⟩
      rw [or_iff_right hfaulty]
      exact ⟨(·.names_apart hself), independent_of_apart hne hself⟩

end Independence

theorem independent_iff_references :
    (∀ k ∈ ["(?:old_)?ref", "(?P<_>addr):[a-z]+", "(?i:name)|[[:alpha:]--x]"], IsSelfContained k) ∧
      Independent ["(?:old_)?ref", "(?P<_>addr):[a-z]+", "(?i:name)|[[:alpha:]--x]"] := by
  have hself : ∀ k ∈ ["(?:old_)?ref", "(?P<_>addr):[a-z]+", "(?i:name)|[[:alpha:]--x]"],
      IsSelfContained k := by
    decide +kernel
  exact ⟨hself, (independent_iff (by decide) (.inr fun k hk ↦ .inl (hself k hk))).mpr
    (.inr (by decide +kernel))⟩

example : ¬IsSelfContained "(?i)a" := by decide +kernel

example : IsFaulty "*" := by
  intro rest
  rw [readChoice?_eq, readSequence?_eq]
  rfl

/-- Two texts that are no expressions can be one together, for the second closes the group that the
first has left open. -/
theorem not_independent : ¬∀ ks : List String, ks ≠ [] → Independent ks := by
  intro h
  have htogether : ∃ r, Predicate.keys ["(a", "b)"] = .ok r :=
    exists_eq_ok_of_isOk (by decide +kernel)
  obtain ⟨r, hr⟩ := (h ["(a", "b)"] (by decide)).compiles.mp htogether "(a" List.mem_cons_self
  have halone : (Predicate.keys ["(a"]).isOk = false := by decide +kernel
  rw [hr] at halone
  cases halone

end KeyPattern

end TagQuery
