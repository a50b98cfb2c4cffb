import Mathlib.Data.Nat.Basic
import TagQuery.Regex.Matching

/-!
# Matching decides the meaning

`advance` computes on marks what `Spans` says of positions, so a text matches exactly if the
expression occurs in it (`matchesIn_iff_occurs`).

## Images

What has to be known of a set of positions computed from another one is that it is the *image* under
some relation (`IsImage`). Every constructor takes images to images, and so does every way of going
on for several rounds: exactly `n` rounds, and any number of rounds up to `n`.

## Why so few rounds suffice

A step of an expression leads forward in the text or nowhere (`Position.Leads`). In a run with more
steps than there are characters left, some step leads nowhere. That step may be left out or taken
once more, so all numbers of steps beyond the length of the text reach the same positions
(`steps_min_iff`).
-/

namespace TagQuery.Regex

/-! ## Positions lead forward -/

/-- One position comes at or after another one in the same text. -/
def Position.Leads (p q : Position) : Prop :=
  ∃ middle, p.after = middle ++ q.after ∧ q.before = middle.reverse ++ p.before

theorem Position.leads_refl (p : Position) : p.Leads p := ⟨[], rfl, rfl⟩

theorem Position.Leads.trans {p q r : Position} (h : p.Leads q) (h' : q.Leads r) : p.Leads r := by
  obtain ⟨m, ha, hb⟩ := h
  obtain ⟨m', ha', hb'⟩ := h'
  refine ⟨m ++ m', ?_, ?_⟩
  · rw [ha, ha', List.append_assoc]
  · rw [hb', hb, List.reverse_append, List.append_assoc]

/-- A position that leads to another one is that position or has more characters after it. -/
theorem Position.Leads.eq_or_lt {p q : Position} (h : p.Leads q) :
    p = q ∨ q.after.length < p.after.length := by
  obtain ⟨p₁, p₂⟩ := p
  obtain ⟨q₁, q₂⟩ := q
  obtain ⟨m, ha, hb⟩ := h
  cases m with
  | nil => exact .inl (congrArg₂ Position.mk hb.symm ha)
  | cons c m =>
    refine .inr ?_
    rw [ha, List.length_append, List.length_cons]
    omega

theorem leads_of_steps {R : Position → Position → Prop} (hR : ∀ p q, R p q → p.Leads q) {n : Nat}
    {p q : Position} (h : Steps R n p q) : p.Leads q := by
  induction h with
  | zero p => exact p.leads_refl
  | succ h _ ih => exact (hR _ _ h).trans ih

/-- An expression leads forward. -/
theorem leads_of_spans {r : Regex} : ∀ {p q : Position}, r.Spans p q → p.Leads q := by
  induction r with
  | empty =>
    rintro p q rfl
    exact p.leads_refl
  | chars a =>
    rintro p q ⟨c, rest, hp, -, rfl⟩
    exact ⟨[c], hp, rfl⟩
  | look l =>
    rintro p q ⟨rfl, -⟩
    exact p.leads_refl
  | seq r s hr hs =>
    rintro p q ⟨m, hpm, hmq⟩
    exact (hr hpm).trans (hs hmq)
  | alt r s hr hs =>
    rintro p q (h | h)
    · exact hr h
    · exact hs h
  | repetition r min max hr =>
    rintro p q ⟨n, -, h⟩
    exact leads_of_steps (fun _ _ ↦ hr) h

/-! ## Numbers of steps -/

section Steps

variable {R : Position → Position → Prop} {m n : Nat} {p q : Position}

theorem steps_zero_iff : Steps R 0 p q ↔ p = q := by
  refine ⟨fun h ↦ ?_, fun h ↦ h ▸ .zero p⟩
  cases h
  rfl

theorem steps_succ_iff : Steps R (n + 1) p q ↔ ∃ r, R p r ∧ Steps R n r q := by
  refine ⟨fun h ↦ ?_, fun ⟨r, hr, h⟩ ↦ .succ hr h⟩
  cases h with
  | succ hr h => exact ⟨_, hr, h⟩

theorem steps_add_iff : Steps R (m + n) p q ↔ ∃ r, Steps R m p r ∧ Steps R n r q := by
  induction m generalizing p with
  | zero => simp [steps_zero_iff]
  | succ m ih =>
    rw [Nat.succ_add, steps_succ_iff]
    simp only [ih, steps_succ_iff]
    exact ⟨fun ⟨r, hr, s, hs, h⟩ ↦ ⟨s, ⟨r, hr, hs⟩, h⟩, fun ⟨s, ⟨r, hr, hs⟩, h⟩ ↦ ⟨r, hr, s, hs, h⟩⟩

/-- With no more characters left than `n`, a step of a run of `n + 1` can be left out. -/
theorem steps_of_succ (hR : ∀ p q, R p q → p.Leads q) (h : Steps R (n + 1) p q)
    (hn : p.after.length ≤ n) : Steps R n p q := by
  induction n generalizing p with
  | zero =>
    obtain ⟨r, hpr, hrq⟩ := steps_succ_iff.mp h
    rcases (hR p r hpr).eq_or_lt with rfl | hlt
    · exact hrq
    · omega
  | succ n ih =>
    obtain ⟨r, hpr, hrq⟩ := steps_succ_iff.mp h
    rcases (hR p r hpr).eq_or_lt with rfl | hlt
    · exact hrq
    · exact .succ hpr (ih hrq (by omega))

/-- With fewer characters left than `n`, a step of a run of `n` can be taken once more. -/
theorem steps_succ_of_lt (hR : ∀ p q, R p q → p.Leads q) (h : Steps R n p q)
    (hn : p.after.length < n) : Steps R (n + 1) p q := by
  induction h with
  | zero p => omega
  | succ hpr hrq ih =>
    rcases (hR _ _ hpr).eq_or_lt with rfl | hlt
    · exact .succ hpr (.succ hpr hrq)
    · exact .succ hpr (ih (by omega))

/-- Beyond the number of characters left, the number of steps does not matter. -/
theorem steps_min_iff (hR : ∀ p q, R p q → p.Leads q) (hm : p.after.length < m) :
    Steps R (Nat.min n m) p q ↔ Steps R n p q := by
  rcases Nat.le_total n m with hnm | hnm
  · rw [show Nat.min n m = n from Nat.min_eq_left hnm]
  · rw [show Nat.min n m = m from Nat.min_eq_right hnm]
    induction n, hnm using Nat.le_induction with
    | base => rfl
    | succ n hmn ih =>
      rw [ih]
      exact ⟨fun h ↦ steps_succ_of_lt hR h (by omega), fun h ↦ steps_of_succ hR h (by omega)⟩

/-- A bounded number of steps, in the two parts in which they are taken: as many as there have to
be, and then any number up to a bound. -/
theorem exists_steps_iff (hR : ∀ p q, R p q → p.Leads q) {least : Nat} {greatest : Option Nat}
    (hbounds : ∀ g ∈ greatest, least ≤ g) (hm : p.after.length < m) :
    (∃ n, allows least greatest n ∧ Steps R n p q) ↔
      ∃ r, Steps R (Nat.min least m) p r ∧
        ∃ k, k ≤ (greatest.elim m fun g ↦ Nat.min (g - least) m) ∧ Steps R k r q := by
  have hsplit : ∀ k, Steps R (Nat.min least m + k) p q ↔
      ∃ r, Steps R (Nat.min least m) p r ∧ Steps R k r q := fun k ↦ steps_add_iff
  constructor
  · rintro ⟨n, ⟨hleast, hgreatest⟩, h⟩
    -- The run is shortened to at most `m` steps, and then cut after the first part.
    have hmin : Nat.min least m ≤ Nat.min n m := by
      simp only [Nat.min_def]
      split <;> split <;> omega
    have h' := (steps_min_iff hR hm).mpr h
    rw [← Nat.add_sub_cancel' hmin, hsplit] at h'
    obtain ⟨r, hpr, hrq⟩ := h'
    refine ⟨r, hpr, _, ?_, hrq⟩
    cases greatest with
    | none =>
      simp only [Nat.min_def, Option.elim_none]
      split <;> split <;> omega
    | some g =>
      have hng := hgreatest g rfl
      simp only [Nat.min_def, Option.elim_some]
      split <;> split <;> split <;> omega
  · rintro ⟨r, hpr, k, hk, hrq⟩
    have h := (hsplit k).mpr ⟨r, hpr, hrq⟩
    rcases Nat.lt_or_ge m least with hlt | hge
    · -- More steps than `m` are required, and any such number reaches the same.
      refine ⟨least, ⟨le_refl least, hbounds⟩, ?_⟩
      rw [show Nat.min least m = m from Nat.min_eq_right (Nat.le_of_lt hlt)] at h
      rw [← steps_min_iff hR hm] at h ⊢
      rw [show Nat.min (m + k) m = m from Nat.min_eq_right (by omega)] at h
      rwa [show Nat.min least m = m from Nat.min_eq_right (Nat.le_of_lt hlt)]
    · rw [show Nat.min least m = least from Nat.min_eq_left hge] at h
      refine ⟨least + k, ⟨by omega, fun g hg ↦ ?_⟩, h⟩
      obtain rfl : greatest = some g := hg
      have hle := hbounds g rfl
      have hkg : k ≤ g - least := le_trans hk (Nat.min_le_left _ _)
      omega

end Steps

/-! ## Marks -/

namespace Marks

variable {before text : List Char} {s t : Marks} {q : Position}

/-- The positions that marks denote, given what lies before the first of them. -/
def Has (before : List Char) : List Char → Marks → Position → Prop
  | _, [], _ => False
  | [], m :: _, q => m = true ∧ q = ⟨before, []⟩
  | c :: cs, m :: ms, q => (m = true ∧ q = ⟨before, c :: cs⟩) ∨ Has (c :: before) cs ms q

/-- Marks are for all positions of a text. -/
def Fits (text : List Char) (s : Marks) : Prop := s.length = text.length + 1

theorem Has.length_after_le (h : Has before text s q) : q.after.length ≤ text.length := by
  induction text generalizing before s with
  | nil =>
    obtain _ | ⟨m, ms⟩ := s
    · exact h.elim
    · obtain ⟨-, rfl⟩ := h
      exact Nat.le_refl _
  | cons c cs ih =>
    obtain _ | ⟨m, ms⟩ := s
    · exact h.elim
    · rcases h with ⟨-, rfl⟩ | h
      · exact Nat.le_refl _
      · exact le_trans (ih h) (Nat.le_succ _)

theorem fits_none (text : List Char) : Fits text (none text) := List.length_replicate

theorem fits_all (text : List Char) : Fits text (all text) := List.length_replicate

theorem not_has_none : ¬Has before text (none text) q := by
  induction text generalizing before with
  | nil => exact fun h ↦ nomatch h.1
  | cons c cs ih =>
    rintro (⟨h, -⟩ | h)
    · cases h
    · exact ih h

/-- All marks are the positions of the text. -/
theorem has_all_iff :
    Has before text (all text) q ↔
      ∃ middle, text = middle ++ q.after ∧ q.before = middle.reverse ++ before := by
  induction text generalizing before with
  | nil =>
    constructor
    · rintro ⟨-, rfl⟩
      exact ⟨[], rfl, rfl⟩
    · rintro ⟨m, hm, hb⟩
      obtain ⟨rfl, ha⟩ := List.append_eq_nil_iff.mp hm.symm
      obtain ⟨q₁, q₂⟩ := q
      exact ⟨rfl, congrArg₂ Position.mk hb ha⟩
  | cons c cs ih =>
    change (_ ∨ Has (c :: before) cs (all cs) q) ↔ _
    rw [ih]
    constructor
    · rintro (⟨-, rfl⟩ | ⟨m, rfl, hb⟩)
      · exact ⟨[], rfl, rfl⟩
      · exact ⟨c :: m, rfl, by rw [hb, List.reverse_cons, List.append_assoc]; rfl⟩
    · rintro ⟨_ | ⟨d, m⟩, ha, hb⟩
      · obtain ⟨q₁, q₂⟩ := q
        exact .inl ⟨rfl, congrArg₂ Position.mk hb ha.symm⟩
      · obtain ⟨rfl, hcs⟩ := List.cons.inj ha
        exact .inr ⟨m, hcs, by rw [hb, List.reverse_cons, List.append_assoc]; rfl⟩

theorem any_iff_exists_has (before : List Char) (h : Fits text s) :
    s.any id = true ↔ ∃ q, Has before text s q := by
  induction text generalizing before s with
  | nil =>
    obtain ⟨m, rfl⟩ := List.length_eq_one_iff.mp h
    simp [Has]
  | cons c cs ih =>
    obtain ⟨m, ms, rfl⟩ := List.exists_cons_of_length_eq_add_one h
    have hms : Fits cs ms := Nat.succ.inj h
    rw [List.any_cons, Bool.or_eq_true, ih (c :: before) hms]
    simp [Has, exists_or]

theorem isEmpty_iff (before : List Char) (h : Fits text s) :
    s.isEmpty = true ↔ ∀ q, ¬Has before text s q := by
  rw [isEmpty, Bool.not_eq_true', ← not_exists, ← any_iff_exists_has before h, Bool.not_eq_true]

/-- Marks combined one by one. -/
theorem has_zipWith_iff {f : Bool → Bool → Bool} (hs : Fits text s) (ht : Fits text t)
    {P : Prop → Prop → Prop} (hf : ∀ a b : Bool, f a b = true ↔ P (a = true) (b = true))
    (hfalse : ¬P False False) :
    Has before text (List.zipWith f s t) q ↔ P (Has before text s q) (Has before text t q) := by
  induction text generalizing before s t with
  | nil =>
    obtain ⟨a, rfl⟩ := List.length_eq_one_iff.mp hs
    obtain ⟨b, rfl⟩ := List.length_eq_one_iff.mp ht
    by_cases hq : q = ⟨before, []⟩ <;> simp [Has, hq, hf, hfalse]
  | cons c cs ih =>
    obtain ⟨a, as, rfl⟩ := List.exists_cons_of_length_eq_add_one hs
    obtain ⟨b, bs, rfl⟩ := List.exists_cons_of_length_eq_add_one ht
    have has : Fits cs as := Nat.succ.inj hs
    have hbs : Fits cs bs := Nat.succ.inj ht
    by_cases hq : q = ⟨before, c :: cs⟩
    · -- Later marks are for positions with fewer characters after them.
      subst hq
      have hlater : ∀ ms, ¬Has (c :: before) cs ms ⟨before, c :: cs⟩ := by
        intro ms h
        have hle := h.length_after_le
        rw [List.length_cons] at hle
        omega
      simp [Has, hf, hlater]
    · simp [Has, hq, ih has hbs]

theorem has_union_iff (hs : Fits text s) (ht : Fits text t) :
    Has before text (union s t) q ↔ Has before text s q ∨ Has before text t q := by
  refine has_zipWith_iff (P := Or) hs ht (fun a b ↦ ?_) (by simp)
  exact Bool.or_eq_true_iff

theorem has_diff_iff (hs : Fits text s) (ht : Fits text t) :
    Has before text (diff s t) q ↔ Has before text s q ∧ ¬Has before text t q := by
  refine has_zipWith_iff (P := fun a b ↦ a ∧ ¬b) hs ht (fun a b ↦ ?_) (by simp)
  simp

/-- Shifting takes a position to the one after the next character, if that is in the class. -/
theorem has_shift_iff {p : Char → Bool} {carried : Bool} :
    Has before text (shift p carried text s) q ↔
      (carried = true ∧ q = ⟨before, text⟩) ∨
        ∃ m c rest, Has before text s m ∧ m.after = c :: rest ∧ p c = true ∧
          q = ⟨c :: m.before, rest⟩ := by
  induction text generalizing before s carried with
  | nil =>
    have hend : ∀ m c rest, Has before [] s m → m.after ≠ c :: rest := by
      intro m c rest hm hafter
      have hle := hm.length_after_le
      rw [hafter] at hle
      cases hle
    have hshift : shift p carried [] s = [carried] := rfl
    rw [hshift]
    constructor
    · exact .inl
    · rintro (h | ⟨m, c, rest, hm, hafter, -⟩)
      · exact h
      · exact (hend m c rest hm hafter).elim
  | cons d cs ih =>
    obtain _ | ⟨a, ms⟩ := s
    · simp [shift, Has]
    · change (_ ∨ Has (d :: before) cs (shift p (a && p d) cs ms) q) ↔ _
      rw [ih]
      refine or_congr_right ⟨?_, ?_⟩
      · rintro (⟨ha, rfl⟩ | ⟨m, c, rest, hm, h⟩)
        · obtain ⟨ha, hp⟩ := Bool.and_eq_true_iff.mp ha
          exact ⟨⟨before, d :: cs⟩, d, cs, .inl ⟨ha, rfl⟩, rfl, hp, rfl⟩
        · exact ⟨m, c, rest, .inr hm, h⟩
      · rintro ⟨m, c, rest, ⟨ha, rfl⟩ | hm, h⟩
        · obtain ⟨hafter, hp, rfl⟩ := h
          obtain ⟨rfl, rfl⟩ := List.cons.inj hafter
          exact .inl ⟨Bool.and_eq_true_iff.mpr ⟨ha, hp⟩, rfl⟩
        · exact .inr ⟨m, c, rest, hm, h⟩

/-- Keeping selects the positions between whose neighbours the statement holds. -/
theorem has_keep_iff {p : Option Char → Option Char → Bool} :
    Has before text (keep p before.head? text s) q ↔
      Has before text s q ∧ p q.before.head? q.after.head? = true := by
  induction text generalizing before s with
  | nil =>
    obtain _ | ⟨m, ms⟩ := s
    · simp [keep, Has]
    · change ((m && p before.head? Option.none) = true ∧ q = ⟨before, []⟩) ↔ _
      rw [Bool.and_eq_true, Has, and_right_comm]
      refine and_congr_right fun ⟨_, hq⟩ ↦ ?_
      rw [hq]
      rfl
  | cons c cs ih =>
    obtain _ | ⟨m, ms⟩ := s
    · simp [keep, Has]
    · change (((m && p before.head? (some c)) = true ∧ q = ⟨before, c :: cs⟩) ∨
        Has (c :: before) cs (keep p (c :: before).head? cs ms) q) ↔ _
      rw [ih, Bool.and_eq_true, Has, or_and_right, and_right_comm]
      refine or_congr_left (and_congr_right fun ⟨_, hq⟩ ↦ ?_)
      rw [hq]
      rfl

theorem fits_zipWith {f : Bool → Bool → Bool} (hs : Fits text s) (ht : Fits text t) :
    Fits text (List.zipWith f s t) := by
  rw [Fits, List.length_zipWith, hs, ht, Nat.min_self]

theorem fits_shift {p : Char → Bool} {carried : Bool} (hs : Fits text s) :
    Fits text (shift p carried text s) := by
  induction text generalizing s carried with
  | nil => rfl
  | cons c cs ih =>
    obtain ⟨m, ms, rfl⟩ := List.exists_cons_of_length_eq_add_one hs
    exact congrArg Nat.succ (ih (Nat.succ.inj hs))

theorem fits_keep {p : Option Char → Option Char → Bool} {first : Option Char} (hs : Fits text s) :
    Fits text (keep p first text s) := by
  induction text generalizing s first with
  | nil =>
    obtain ⟨m, ms, rfl⟩ := List.exists_cons_of_length_eq_add_one hs
    rfl
  | cons c cs ih =>
    obtain ⟨m, ms, rfl⟩ := List.exists_cons_of_length_eq_add_one hs
    exact congrArg Nat.succ (ih (Nat.succ.inj hs))

/-! ## Images -/

/-- Marks denote the image under a relation of the positions that other marks denote. -/
structure IsImage (text : List Char) (R : Position → Position → Prop) (s t : Marks) : Prop where
  fits : Fits text t
  has_iff : ∀ q, Has [] text t q ↔ ∃ p, Has [] text s p ∧ R p q

variable {R S : Position → Position → Prop} {u : Marks} {step : Marks → Marks}

theorem IsImage.congr (h : IsImage text R s t)
    (hRS : ∀ p q, Has [] text s p → (R p q ↔ S p q)) : IsImage text S s t where
  fits := h.fits
  has_iff q := by
    rw [h.has_iff]
    exact exists_congr fun p ↦ and_congr_right fun hp ↦ hRS p q hp

theorem isImage_eq (hs : Fits text s) : IsImage text (· = ·) s s where
  fits := hs
  has_iff q := by simp

theorem IsImage.comp (h : IsImage text R s t) (h' : IsImage text S t u) :
    IsImage text (fun p q ↦ ∃ m, R p m ∧ S m q) s u where
  fits := h'.fits
  has_iff q := by
    simp only [h'.has_iff, h.has_iff]
    exact ⟨fun ⟨m, ⟨p, hp, hpm⟩, hmq⟩ ↦ ⟨p, hp, m, hpm, hmq⟩,
      fun ⟨p, hp, m, hpm, hmq⟩ ↦ ⟨m, ⟨p, hp, hpm⟩, hmq⟩⟩

theorem isImage_steps_zero (hs : Fits text s) : IsImage text (Steps R 0) s s :=
  (isImage_eq hs).congr fun _ _ _ ↦ steps_zero_iff.symm

theorem IsImage.steps_succ {n : Nat} (h : IsImage text R s t) (h' : IsImage text (Steps R n) t u) :
    IsImage text (Steps R (n + 1)) s u :=
  (h.comp h').congr fun _ _ _ ↦ steps_succ_iff.symm

theorem IsImage.steps (h : IsImage text R s s) (hs : Fits text s) (n : Nat) :
    IsImage text (Steps R n) s s := by
  induction n with
  | zero => exact isImage_steps_zero hs
  | succ n ih => exact h.steps_succ ih

theorem has_of_steps (hclosed : ∀ p q, Has [] text s p → R p q → Has [] text s q) {n : Nat}
    {p q : Position} (hp : Has [] text s p) (h : Steps R n p q) : Has [] text s q := by
  induction h with
  | zero => exact hp
  | succ hpr _ ih => exact ih (hclosed _ _ hp hpr)

/-- Exactly `n` rounds, where going on changes nothing as soon as one round changes nothing. -/
theorem isImage_iterate (hstep : ∀ s, Fits text s → IsImage text R s (step s)) (n : Nat)
    (hs : Fits text s) : IsImage text (Steps R n) s (iterate step n s) := by
  induction n generalizing s with
  | zero => exact isImage_steps_zero hs
  | succ n ih =>
    rw [iterate]
    by_cases heq : step s = s
    · have hfix : IsImage text R s s := by simpa only [heq] using hstep s hs
      rw [if_pos heq]
      exact hfix.steps hs (n + 1)
    · rw [if_neg heq]
      exact (hstep s hs).steps_succ (ih (hstep s hs).fits)

/-- At most `n` rounds. What is fresh has been reached, and what can be reached in one step from the
rest has been reached as well; so a round only has to step from what is fresh. -/
theorem isImage_spread (hstep : ∀ s, Fits text s → IsImage text R s (step s)) (n : Nat)
    {reached fresh : Marks} (hreached : Fits text reached) (hfresh : Fits text fresh)
    (hsub : ∀ p, Has [] text fresh p → Has [] text reached p)
    (hold : ∀ p q, Has [] text reached p → ¬Has [] text fresh p → R p q → Has [] text reached q) :
    IsImage text (fun p q ↦ ∃ k, k ≤ n ∧ Steps R k p q) reached (spread step n reached fresh) := by
  induction n generalizing reached fresh with
  | zero =>
    refine (isImage_steps_zero (R := R) hreached).congr fun p q _ ↦ ⟨fun h ↦ ⟨0, le_refl 0, h⟩, ?_⟩
    rintro ⟨k, hk, h⟩
    rwa [Nat.le_zero.mp hk] at h
  | succ n ih =>
    have himage := hstep fresh hfresh
    have hnext : Fits text (diff (step fresh) reached) := fits_zipWith himage.fits hreached
    have hhas : ∀ q, Has [] text (diff (step fresh) reached) q ↔
        (∃ p, Has [] text fresh p ∧ R p q) ∧ ¬Has [] text reached q := by
      intro q
      rw [has_diff_iff himage.fits hreached, himage.has_iff]
    -- One step from what has been reached leads to what has been reached or is next.
    have hone : ∀ p q, Has [] text reached p → R p q →
        Has [] text reached q ∨ Has [] text (diff (step fresh) reached) q := by
      intro p q hp hpq
      rw [hhas]
      by_cases hfreshp : Has [] text fresh p
      · by_cases hq : Has [] text reached q
        · exact .inl hq
        · exact .inr ⟨⟨p, hfreshp, hpq⟩, hq⟩
      · exact .inl (hold p q hp hfreshp hpq)
    rw [spread]
    by_cases hempty : (diff (step fresh) reached).isEmpty = true
    · have hclosed : ∀ p q, Has [] text reached p → R p q → Has [] text reached q :=
        fun p q hp hpq ↦ (hone p q hp hpq).resolve_right ((isEmpty_iff [] hnext).mp hempty q)
      rw [if_pos hempty]
      refine ⟨hreached, fun q ↦ ⟨fun hq ↦ ⟨q, hq, 0, Nat.zero_le _, .zero q⟩, ?_⟩⟩
      rintro ⟨p, hp, k, -, h⟩
      exact has_of_steps hclosed hp h
    · have hunion : ∀ q, Has [] text (union reached (diff (step fresh) reached)) q ↔
          Has [] text reached q ∨ Has [] text (diff (step fresh) reached) q :=
        fun q ↦ has_union_iff hreached hnext
      have hspread := ih (fits_zipWith (f := (· || ·)) hreached hnext) hnext
        (fun p hp ↦ (hunion p).mpr (.inr hp))
        (fun p q hp hnot hpq ↦
          (hunion q).mpr (hone p q (((hunion p).mp hp).resolve_right hnot) hpq))
      rw [if_neg hempty]
      refine ⟨hspread.fits, fun q ↦ (hspread.has_iff q).trans ⟨?_, ?_⟩⟩
      · -- A run from what is next is one step longer than the run from what was fresh.
        rintro ⟨p, hp, k, hk, h⟩
        rcases (hunion p).mp hp with hp | hp
        · exact ⟨p, hp, k, le_trans hk (Nat.le_succ n), h⟩
        · obtain ⟨⟨r, hr, hrp⟩, -⟩ := (hhas p).mp hp
          exact ⟨r, hsub r hr, k + 1, Nat.succ_le_succ hk, .succ hrp h⟩
      · rintro ⟨p, hp, k, hk, h⟩
        cases k with
        | zero => exact ⟨p, (hunion p).mpr (.inl hp), 0, Nat.zero_le n, h⟩
        | succ k =>
          obtain ⟨r, hpr, hrq⟩ := steps_succ_iff.mp h
          exact ⟨r, (hunion r).mpr (hone p r hp hpr), k, Nat.le_of_succ_le_succ hk, hrq⟩

end Marks

/-! ## Matching -/

/-- Advancing computes the image under the meaning of the expression. -/
theorem isImage_advance (text : List Char) (r : Regex) {s : Marks} (hs : s.Fits text) :
    Marks.IsImage text r.Spans s (advance text r s) := by
  induction r generalizing s with
  | empty => exact Marks.isImage_eq hs
  | chars a =>
    refine ⟨Marks.fits_shift hs, fun q ↦ ?_⟩
    rw [advance, Marks.has_shift_iff]
    constructor
    · rintro (⟨h, -⟩ | ⟨m, c, rest, hm, hafter, hc, rfl⟩)
      · cases h
      · exact ⟨m, hm, c, rest, hafter, hc, rfl⟩
    · rintro ⟨m, hm, c, rest, hafter, hc, rfl⟩
      exact .inr ⟨m, c, rest, hm, hafter, hc, rfl⟩
  | look l =>
    refine ⟨Marks.fits_keep hs, fun q ↦ ?_⟩
    have hkeep : Marks.Has [] text (Marks.keep l.holds none text s) q ↔
        Marks.Has [] text s q ∧ l.holds q.before.head? q.after.head? = true := Marks.has_keep_iff
    rw [advance]
    refine hkeep.trans ⟨fun ⟨hq, h⟩ ↦ ⟨q, hq, rfl, h⟩, ?_⟩
    rintro ⟨p, hp, rfl, h⟩
    exact ⟨hp, h⟩
  | seq q r hq hr => exact (hq hs).comp (hr (hq hs).fits)
  | alt q r hq hr =>
    refine ⟨Marks.fits_zipWith (hq hs).fits (hr hs).fits, fun p ↦ ?_⟩
    rw [advance, Marks.has_union_iff (hq hs).fits (hr hs).fits, (hq hs).has_iff, (hr hs).has_iff]
    simp only [Spans, and_or_left, exists_or]
  | repetition r least greatest hr =>
    have hstart := Marks.isImage_iterate (fun _ ↦ hr) (Nat.min least (text.length + 1)) hs
    have hspread := fun n ↦ Marks.isImage_spread (fun _ ↦ hr) n hstart.fits hstart.fits
      (fun _ ↦ id) (fun _ _ hp hnot ↦ absurd hp hnot)
    have hleads : ∀ p q, r.Spans p q → p.Leads q := fun _ _ ↦ leads_of_spans
    have hlength : ∀ p, Marks.Has [] text s p → p.after.length < text.length + 1 :=
      fun p hp ↦ Nat.lt_succ_of_le hp.length_after_le
    cases greatest with
    | none =>
      have hbounds : ∀ g ∈ (none : Option Nat), least ≤ g := nofun
      exact (hstart.comp (hspread _)).congr fun p q hp ↦
        (exists_steps_iff hleads hbounds (hlength p hp)).symm
    | some g =>
      rw [advance]
      by_cases hg : g < least
      · rw [if_pos hg]
        refine ⟨Marks.fits_none text, fun q ↦ iff_of_false Marks.not_has_none ?_⟩
        rintro ⟨p, -, n, ⟨hleast, hgreatest⟩, -⟩
        have hng := hgreatest g rfl
        omega
      · rw [if_neg hg]
        have hbounds : ∀ g' ∈ some g, least ≤ g' := fun g' hg' ↦ by cases hg'; omega
        exact (hstart.comp (hspread _)).congr fun p q hp ↦
          (exists_steps_iff hleads hbounds (hlength p hp)).symm

/-- **Matching decides the meaning.** A text matches exactly if the expression occurs in it. -/
theorem matchesIn_iff_occurs (r : Regex) (text : List Char) :
    matchesIn r text = true ↔ r.Occurs text := by
  have himage := isImage_advance text r (Marks.fits_all text)
  rw [matchesIn, Bool.not_eq_true', ← Bool.not_eq_true,
    Marks.isEmpty_iff [] himage.fits, not_forall]
  simp only [not_not, himage.has_iff, Marks.has_all_iff, List.append_nil]
  constructor
  · rintro ⟨q, p, ⟨before, htext, hbefore⟩, h⟩
    obtain ⟨middle, hafter, hq⟩ := leads_of_spans h
    refine ⟨before, middle, q.after, ?_, ?_⟩
    · rw [htext, hafter, List.append_assoc]
    · obtain ⟨p₁, p₂⟩ := p
      obtain ⟨q₁, q₂⟩ := q
      obtain rfl : p₁ = before.reverse := hbefore
      obtain rfl : p₂ = middle ++ q₂ := hafter
      obtain rfl : q₁ = middle.reverse ++ before.reverse := hq
      rwa [List.reverse_append]
  · rintro ⟨before, middle, after, rfl, h⟩
    exact ⟨_, _, ⟨before, List.append_assoc _ _ _, rfl⟩, h⟩

end TagQuery.Regex
