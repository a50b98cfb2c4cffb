import Mathlib.Data.List.TakeWhile
import TagQuery.Text.Blank

/-!
# Words and the blanks around them

A text is a list of words with gaps of blanks between them, and what is made of it depends on the
words alone. Splitting at blanks takes a text apart at any one of them (`words_append_blank`), and
from this equation follows the rest: a text has no words if it is a gap, and otherwise begins with a
gap, a word, and a rest that has the other words (`words_cases`).

Trimming takes off the gaps at both ends, so what is left begins and ends with no blank
(`isTrimmed_trim`), and a text that does so already is left as it is.
-/

namespace TagQuery.Text

/-- A text of blanks alone. -/
def IsGap (cs : List Char) : Prop := ∀ c ∈ cs, isBlank c = true

instance (cs : List Char) : Decidable (IsGap cs) :=
  decidable_of_iff (cs.all isBlank = true) List.all_eq_true

/-- A text without blanks, and not empty. -/
structure IsWord (cs : List Char) : Prop where
  ne_nil : cs ≠ []
  not_blank : ∀ c ∈ cs, isBlank c = false

instance (cs : List Char) : Decidable (IsWord cs) :=
  decidable_of_iff (cs ≠ [] ∧ cs.all (!isBlank ·) = true)
    ⟨fun h ↦ ⟨h.1, by simpa using h.2⟩, fun h ↦ ⟨h.ne_nil, by simpa using h.not_blank⟩⟩

/-- A text that neither begins nor ends with a blank. -/
structure IsTrimmed (cs : List Char) : Prop where
  head : ∀ c ∈ cs.head?, isBlank c = false
  last : ∀ c ∈ cs.getLast?, isBlank c = false

theorem IsWord.append_cons {xs ys : List Char} {c : Char} (hxs : IsWord xs) (hc : isBlank c = false)
    (hys : IsWord ys) : IsWord (xs ++ c :: ys) where
  ne_nil := List.append_ne_nil_of_left_ne_nil hxs.ne_nil _
  not_blank := List.forall_mem_append.mpr
    ⟨hxs.not_blank, List.forall_mem_cons.mpr ⟨hc, hys.not_blank⟩⟩

theorem IsWord.isTrimmed {cs : List Char} (h : IsWord cs) : IsTrimmed cs where
  head _ hc := h.not_blank _ (List.mem_of_mem_head? hc)
  last _ hc := h.not_blank _ (List.mem_of_mem_getLast? hc)

/-! ## Trimming -/

theorem head?_trimStart (cs : List Char) : ∀ c ∈ (trimStart cs).head?, isBlank c = false := by
  intro c hc
  have hhead := List.head?_dropWhile_not isBlank cs
  rw [Option.mem_def, trimStart] at hc
  rw [hc] at hhead
  exact hhead

theorem trimStart_of_head? {cs : List Char} (h : ∀ c ∈ cs.head?, isBlank c = false) :
    trimStart cs = cs := by
  cases cs with
  | nil => rfl
  | cons c cs => exact List.dropWhile_cons_of_neg (Bool.eq_false_iff.mp (h c rfl))

/-- A text is a gap and what is left of it without the blanks at its start. -/
theorem exists_gap_trimStart (cs : List Char) : ∃ gap, IsGap gap ∧ cs = gap ++ trimStart cs :=
  ⟨cs.takeWhile isBlank, fun _ ↦ List.mem_takeWhile_imp, List.takeWhile_append_dropWhile.symm⟩

theorem exists_trimEnd_gap (cs : List Char) : ∃ gap, IsGap gap ∧ cs = trimEnd cs ++ gap := by
  obtain ⟨gap, hgap, hcs⟩ := exists_gap_trimStart cs.reverse
  refine ⟨gap.reverse, fun c hc ↦ hgap c (List.mem_reverse.mp hc), ?_⟩
  rw [trimEnd, ← List.reverse_append, ← hcs, List.reverse_reverse]

theorem isTrimmed_trim (cs : List Char) : IsTrimmed (trim cs) where
  head := by
    obtain ⟨gap, -, hcs⟩ := exists_trimEnd_gap (trimStart cs)
    intro c hc
    refine head?_trimStart cs c ?_
    rw [hcs, List.head?_append]
    change c ∈ (trim cs).head?.or gap.head?
    rw [Option.mem_def.mp hc]
    rfl
  last := by
    intro c hc
    rw [trim, trimEnd, List.getLast?_reverse] at hc
    exact head?_trimStart _ c hc

theorem trim_of_isTrimmed {cs : List Char} (h : IsTrimmed cs) : trim cs = cs := by
  have hreverse : ∀ c ∈ cs.reverse.head?, isBlank c = false := by
    rw [List.head?_reverse]
    exact h.last
  rw [trim, trimStart_of_head? h.head, trimEnd, trimStart_of_head? hreverse, List.reverse_reverse]

/-- A text is another one between two gaps. -/
def HasCore (cs core : List Char) : Prop :=
  ∃ before after, IsGap before ∧ IsGap after ∧ cs = before ++ (core ++ after)

theorem HasCore.refl (cs : List Char) : HasCore cs cs :=
  ⟨[], [], List.forall_mem_nil _, List.forall_mem_nil _, (List.append_nil cs).symm⟩

theorem hasCore_trim (cs : List Char) : HasCore cs (trim cs) := by
  obtain ⟨before, hbefore, hcs⟩ := exists_gap_trimStart cs
  obtain ⟨after, hafter, hstart⟩ := exists_trimEnd_gap (trimStart cs)
  exact ⟨before, after, hbefore, hafter, by rw [trim, ← hstart, ← hcs]⟩

theorem trimStart_gap_append {gap cs : List Char} (hgap : IsGap gap)
    (hcs : ∀ c ∈ cs.head?, isBlank c = false) : trimStart (gap ++ cs) = cs :=
  (takeWhile_append_eq hgap hcs).2

/-- Trimming leaves of a text what stands between its gaps. -/
theorem HasCore.trim_eq {cs core : List Char} (h : HasCore cs core) (hcore : IsTrimmed core)
    (hne : core ≠ []) : trim cs = core := by
  obtain ⟨before, after, hbefore, hafter, rfl⟩ := h
  have hhead : ∀ c ∈ (core ++ after).head?, isBlank c = false := by
    obtain ⟨d, ds, rfl⟩ := List.exists_cons_of_ne_nil hne
    exact hcore.head
  have hlast : ∀ c ∈ core.reverse.head?, isBlank c = false := by
    rw [List.head?_reverse]
    exact hcore.last
  have hafter' : IsGap after.reverse := fun c hc ↦ hafter c (List.mem_reverse.mp hc)
  rw [trim, trimStart_gap_append hbefore hhead, trimEnd, List.reverse_append,
    trimStart_gap_append hafter' hlast, List.reverse_reverse]

/-- A trimmed text ends with a gap only if that is empty. -/
theorem eq_nil_of_isTrimmed_append {cs gap : List Char} (h : IsTrimmed (cs ++ gap))
    (hgap : IsGap gap) : gap = [] := by
  by_contra hne
  have hlast : gap.getLast hne ∈ (cs ++ gap).getLast? := by
    rw [List.getLast?_append, List.getLast?_eq_some_getLast hne]
    rfl
  exact Bool.false_ne_true ((h.last _ hlast).symm.trans (hgap _ (List.getLast_mem hne)))

/-! ## Splitting -/

theorem splitAt_eq_splitOnP (p : Char → Bool) (cs : List Char) : splitAt p cs = cs.splitOnP p := by
  induction cs with
  | nil => rw [List.splitOnP_nil, splitAt, pieces]
  | cons c cs ih =>
    rw [List.splitOnP_cons_eq_if_modifyHead, ← ih, splitAt, pieces]
    dsimp only
    split
    · rfl
    · rfl

/-- **Words are split at every blank.** -/
theorem words_append_blank {c : Char} (hc : isBlank c = true) (xs ys : List Char) :
    words (xs ++ c :: ys) = words xs ++ words ys := by
  simp only [words, splitAt_eq_splitOnP]
  rw [List.splitOnP_append_cons xs ys hc, List.filter_append]

theorem words_gap_append {gap : List Char} (h : IsGap gap) (cs : List Char) :
    words (gap ++ cs) = words cs := by
  induction gap with
  | nil => rfl
  | cons c gap ih =>
    obtain ⟨hc, hgap⟩ := List.forall_mem_cons.mp h
    have hnil : words [] = [] := rfl
    calc words (c :: (gap ++ cs)) = words [] ++ words (gap ++ cs) := words_append_blank hc [] _
      _ = words cs := by rw [hnil, List.nil_append, ih hgap]

theorem words_of_isWord {w : List Char} (h : IsWord w) : words w = [w] := by
  rw [words, splitAt_eq_splitOnP, List.splitOnP_eq_singleton h.not_blank]
  simp [h.ne_nil]

/-- A word is read up to the blank or the end that follows it. -/
theorem words_word_append {w rest : List Char} (h : IsWord w)
    (hrest : ∀ c ∈ rest.head?, isBlank c = true) : words (w ++ rest) = w :: words rest := by
  cases rest with
  | nil =>
    rw [List.append_nil, words_of_isWord h]
    rfl
  | cons c rest =>
    have hc : isBlank c = true := hrest c rfl
    have hrest' : words (c :: rest) = words rest := words_append_blank hc [] rest
    rw [words_append_blank hc, words_of_isWord h, hrest']
    rfl

/-- A text is a gap, or begins with a word after a gap. -/
theorem words_cases (cs : List Char) :
    (IsGap cs ∧ words cs = []) ∨
    ∃ gap w rest, cs = gap ++ (w ++ rest) ∧ IsGap gap ∧ IsWord w ∧
      (∀ c ∈ rest.head?, isBlank c = true) ∧ words cs = w :: words rest := by
  obtain ⟨gap, hgap, hcs⟩ := exists_gap_trimStart cs
  have hhead := head?_trimStart cs
  generalize trimStart cs = body at hcs hhead
  subst hcs
  cases body with
  | nil =>
    refine .inl ⟨by rwa [List.append_nil], ?_⟩
    rw [words_gap_append hgap]
    rfl
  | cons c body =>
    have hc : isBlank c = false := hhead c rfl
    -- the word goes up to the next blank
    obtain ⟨w, hw⟩ : ∃ w, (c :: body).takeWhile (!isBlank ·) = w := ⟨_, rfl⟩
    obtain ⟨rest, hr⟩ : ∃ rest, (c :: body).dropWhile (!isBlank ·) = rest := ⟨_, rfl⟩
    have hparts : c :: body = w ++ rest := by rw [← hw, ← hr, List.takeWhile_append_dropWhile]
    have hword : IsWord w := by
      constructor
      · rw [← hw, List.takeWhile_cons_of_pos (by simpa using hc)]
        exact List.cons_ne_nil _ _
      · intro d hd
        rw [← hw] at hd
        simpa using List.mem_takeWhile_imp hd
    have hrest : ∀ d ∈ rest.head?, isBlank d = true := by
      intro d hd
      have hnext := List.head?_dropWhile_not (!isBlank ·) (c :: body)
      rw [hr, Option.mem_def.mp hd] at hnext
      simpa using hnext
    refine .inr ⟨gap, w, rest, by rw [hparts], hgap, hword, hrest, ?_⟩
    rw [words_gap_append hgap, hparts, words_word_append hword hrest]

end TagQuery.Text
