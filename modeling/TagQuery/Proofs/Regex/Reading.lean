import Mathlib.Data.List.Infix
import TagQuery.Regex.Flags

/-!
# What follows an expression

An expression may be read alone, or with a closing parenthesis and more after it. Readers of
expressions treat the end of a text and a closing parenthesis alike, so what stands before the
parenthesis should be read in the same way. There are two exceptions, and `Local` names both.

* In a verbose expression the text may end in a comment. Then the parenthesis is part of the comment
  and closes nothing.
* Where a reader fails because the text ends, it may go on with the parenthesis: to a backslash or
  an opening bracket it is a character like any other. Then the parenthesis is used up as well.

So a parenthesis that is left over in the end has not been touched, and all before it has been read
as if the text ended there.

Sequences end before a bar as well, and what stands before a bar should be read as before a closing
parenthesis. This holds where the parenthesis is left over (`Indifferent`); then the reader has not
so much as looked at it, unless to find that it is none of the characters it looks for.

## Why the cases are as they are

The three cases are closed under reading one thing after another, and so is indifference
(`Tame.bind`). What a reader leaves must be the end of what it was given for that (`Shrinks`): once
the parenthesis is used up, it stays so, whatever is read next.
-/

namespace TagQuery.Regex

variable {α β : Type}

/-- A character that ends a sequence. -/
inductive IsStop : Char → Prop
  | paren : IsStop ')'
  | bar : IsStop '|'

/-- A reader leaves the end of the text that it was given. -/
def Shrinks (F : Reader α) : Prop := ∀ cs a rest, F cs = some (a, rest) → rest <:+ cs

/-- A reader takes one character at least. -/
def Takes (F : Reader α) : Prop :=
  ∀ cs a rest, F cs = some (a, rest) → ∃ c cs', cs = c :: cs' ∧ rest <:+ cs'

/-- How a closing parenthesis after `cs`, with anything after it, bears on what is read. Where a
reader is stuck at the end of `cs`, the relation `goesOn` tells what it may read and leave of a
longer text, given what follows the parenthesis. -/
inductive Local (goesOn : List Char → α → List Char → Prop) (F : Reader α) (cs : List Char) : Prop
  /-- The same is read, and the parenthesis is left. -/
  | same (a : α) (rest : List Char) (h : F cs = some (a, rest))
      (happend : ∀ u, F (cs ++ ')' :: u) = some (a, rest ++ ')' :: u))
  /-- The text ends in a comment, which goes on to the next line break. -/
  | comment (a : α) (h : F cs = some (a, []))
      (hline : ∀ u, '\n' ∉ u → F (cs ++ ')' :: u) = some (a, []))
      (hbreak : ∀ u b rest, F (cs ++ ')' :: u) = some (b, rest) → rest <:+ u)
  /-- More is needed than there is. -/
  | stuck (h : F cs = none)
      (hon : ∀ u b rest, F (cs ++ ')' :: u) = some (b, rest) → goesOn u b rest)

/-- The parenthesis has been used up. -/
def UsedUp (u : List Char) (_ : α) (rest : List Char) : Prop := rest <:+ u

/-- A closing parenthesis that a reader leaves might as well be a bar. -/
def Indifferent (F : Reader α) : Prop :=
  ∀ x y u a, F (x ++ ')' :: u) = some (a, y ++ ')' :: u) →
    F (x ++ '|' :: u) = some (a, y ++ '|' :: u)

/-- A reader that leaves the end of a text, uses the parenthesis up where it is stuck, and does not
tell it from a bar otherwise. -/
structure Tame (F : Reader α) : Prop where
  shrinks : Shrinks F
  isLocal : ∀ cs, Local UsedUp F cs
  indifferent : Indifferent F

/-! ## Reading one thing after another -/

theorem Shrinks.bind {F : Reader α} {G : α → Reader β} (hF : Shrinks F) (hG : ∀ a, Shrinks (G a)) :
    Shrinks fun cs ↦ (F cs).bind fun x ↦ G x.1 x.2 := by
  intro cs b rest h
  obtain ⟨⟨a, rest'⟩, ha, hb⟩ := Option.bind_eq_some_iff.mp h
  exact (hG a rest' b rest hb).trans (hF cs a rest' ha)

namespace Takes

variable {F : Reader α} {G : α → Reader β}

theorem suffix (hF : Takes F) {c : Char} {cs rest : List Char} {a : α}
    (h : F (c :: cs) = some (a, rest)) : rest <:+ cs := by
  obtain ⟨d, cs', heq, hrest⟩ := hF (c :: cs) a rest h
  cases heq
  exact hrest

theorem shrinks (hF : Takes F) : Shrinks F := by
  intro cs a rest h
  obtain ⟨c, cs', rfl, hrest⟩ := hF cs a rest h
  exact hrest.trans (List.suffix_cons c cs')

theorem length_lt (hF : Takes F) {cs rest : List Char} {a : α} (h : F cs = some (a, rest)) :
    rest.length < cs.length := by
  obtain ⟨c, cs', rfl, hrest⟩ := hF cs a rest h
  exact Nat.lt_succ_of_le hrest.length_le

theorem bind (hF : Takes F) (hG : ∀ a, Shrinks (G a)) :
    Takes fun cs ↦ (F cs).bind fun x ↦ G x.1 x.2 := by
  intro cs b rest h
  obtain ⟨⟨a, rest'⟩, ha, hb⟩ := Option.bind_eq_some_iff.mp h
  obtain ⟨c, cs', rfl, hrest⟩ := hF cs a rest' ha
  exact ⟨c, cs', rfl, (hG a rest' b rest hb).trans hrest⟩

theorem of_shrinks_bind (hF : Shrinks F) (hG : ∀ a, Takes (G a)) :
    Takes fun cs ↦ (F cs).bind fun x ↦ G x.1 x.2 := by
  intro cs b rest h
  obtain ⟨⟨a, rest'⟩, ha, hb⟩ := Option.bind_eq_some_iff.mp h
  obtain ⟨c, cs', rfl, hrest⟩ := hG a rest' b rest hb
  cases cs with
  | nil => cases List.suffix_nil.mp (hF [] a (c :: cs') ha)
  | cons d ds =>
    refine ⟨d, ds, rfl, hrest.trans ?_⟩
    rcases List.suffix_cons_iff.mp (hF (d :: ds) a (c :: cs') ha) with heq | hsuffix
    · rw [(List.cons.inj heq).2]
    · exact (List.suffix_cons c cs').trans hsuffix

/-- A reader that fails at the end of a text and else goes on after the first character. -/
theorem cons (hnil : F [] = none)
    (hcons : ∀ c cs a rest, F (c :: cs) = some (a, rest) → rest <:+ cs) : Takes F := by
  intro cs a rest h
  cases cs with
  | nil =>
    rw [hnil] at h
    cases h
  | cons c cs => exact ⟨c, cs, rfl, hcons c cs a rest h⟩

end Takes

/-- What is local stays so if something local is read after it. Where the first reader is stuck, the
second one must not undo that. -/
theorem Local.bind {F : Reader α} {G : α → Reader β} {cs : List Char}
    {goesOn : List Char → α → List Char → Prop} {goesOn' : List Char → β → List Char → Prop}
    (hF : Local goesOn F cs) (hG : ∀ a rest, F cs = some (a, rest) → Local goesOn' (G a) rest)
    (hshrinks : ∀ a, Shrinks (G a)) (husedUp : ∀ u b rest, rest <:+ u → goesOn' u b rest)
    (hon : ∀ u a rest b rest', goesOn u a rest → G a rest = some (b, rest') → goesOn' u b rest') :
    Local goesOn' (fun cs ↦ (F cs).bind fun x ↦ G x.1 x.2) cs := by
  cases hF with
  | same a rest h happend =>
    have hbind : (F cs).bind (fun x ↦ G x.1 x.2) = G a rest := by rw [h]; rfl
    have hbindAppend : ∀ u, (F (cs ++ ')' :: u)).bind (fun x ↦ G x.1 x.2)
        = G a (rest ++ ')' :: u) := fun u ↦ by rw [happend]; rfl
    cases hG a rest h with
    | same b rest' h' happend' =>
      exact .same b rest' (hbind.trans h') fun u ↦ (hbindAppend u).trans (happend' u)
    | comment b h' hline hbreak =>
      exact .comment b (hbind.trans h') (fun u hu ↦ (hbindAppend u).trans (hline u hu))
        fun u c rest'' h'' ↦ hbreak u c rest'' ((hbindAppend u).symm.trans h'')
    | stuck h' hon' =>
      exact .stuck (hbind.trans h')
        fun u c rest'' h'' ↦ hon' u c rest'' ((hbindAppend u).symm.trans h'')
  | comment a h hline hbreak =>
    -- The second reader is at the end of the text, and so it is before a parenthesis, unless a line
    -- break ends the comment; then the parenthesis has been used up.
    have hbind : (F cs).bind (fun x ↦ G x.1 x.2) = G a [] := by rw [h]; rfl
    have hused : ∀ u b rest, (F (cs ++ ')' :: u)).bind (fun x ↦ G x.1 x.2) = some (b, rest) →
        rest <:+ u := by
      intro u b rest h'
      obtain ⟨⟨a', rest'⟩, ha, hb⟩ := Option.bind_eq_some_iff.mp h'
      exact (hshrinks a' rest' b rest hb).trans (hbreak u a' rest' ha)
    cases hb : G a [] with
    | none => exact .stuck (hbind.trans hb) fun u b rest h' ↦ husedUp u b rest (hused u b rest h')
    | some x =>
      obtain ⟨b, rest⟩ := x
      obtain rfl : rest = [] := List.suffix_nil.mp (hshrinks a [] b rest hb)
      refine .comment b (hbind.trans hb) (fun u hu ↦ ?_) hused
      rw [hline u hu]
      exact hb
  | stuck h hon' =>
    refine .stuck (by rw [h]; rfl) fun u b rest' h' ↦ ?_
    obtain ⟨⟨a, rest⟩, ha, hb⟩ := Option.bind_eq_some_iff.mp h'
    exact hon u a rest b rest' (hon' u a rest ha) hb

theorem Local.bind_of_usedUp {F : Reader α} {G : α → Reader β} {cs : List Char}
    {goesOn : List Char → β → List Char → Prop} (hF : Local UsedUp F cs)
    (hG : ∀ a rest, F cs = some (a, rest) → Local goesOn (G a) rest)
    (hshrinks : ∀ a, Shrinks (G a)) (husedUp : ∀ u b rest, rest <:+ u → goesOn u b rest) :
    Local goesOn (fun cs ↦ (F cs).bind fun x ↦ G x.1 x.2) cs := by
  refine hF.bind hG hshrinks husedUp fun u a rest b rest' hrest hb ↦ husedUp u b rest' ?_
  exact (hshrinks a rest b rest' hb).trans hrest

/-- What has been used up is not left over. -/
theorem not_suffix_of_leftOver {y u : List Char} {c : Char} : ¬(y ++ c :: u <:+ u) := by
  intro h
  have hle := h.length_le
  rw [List.length_append, List.length_cons] at hle
  omega

namespace Indifferent

variable {F : Reader α} {G : α → Reader β}

/-- What a reader leaves for the next one ends in what that leaves. -/
theorem bind (hF : Indifferent F) (hG : ∀ a, Indifferent (G a)) (hshrinks : ∀ a, Shrinks (G a)) :
    Indifferent fun cs ↦ (F cs).bind fun x ↦ G x.1 x.2 := by
  intro x y u b h
  obtain ⟨⟨a, rest⟩, ha, hb⟩ := Option.bind_eq_some_iff.mp h
  obtain ⟨z, rfl⟩ : ∃ z, rest = z ++ ')' :: u := by
    obtain ⟨z, rfl⟩ := hshrinks a rest b _ hb
    exact ⟨z ++ y, (List.append_assoc z y _).symm⟩
  change (F (x ++ '|' :: u)).bind _ = _
  rw [hF x z u a ha]
  exact hG a z y u b hb

theorem map (hF : Indifferent F) (g : α → β) :
    Indifferent fun cs ↦ (F cs).map fun x ↦ (g x.1, x.2) := by
  intro x y u b h
  obtain ⟨⟨a, rest⟩, ha, he⟩ := Option.map_eq_some_iff.mp h
  cases he
  change (F (x ++ '|' :: u)).map _ = _
  rw [hF x y u a ha]
  rfl

/-- A reader that takes a closing parenthesis does not leave it. -/
theorem cons (hparen : Shrinks fun cs ↦ F (')' :: cs))
    (hcons : ∀ c, Indifferent fun cs ↦ F (c :: cs)) : Indifferent F := by
  intro x y u a h
  cases x with
  | nil => exact absurd (hparen u a _ h) not_suffix_of_leftOver
  | cons c x => exact hcons c x y u a h

end Indifferent

/-- Being local is about what is read of the text alone and before a parenthesis. -/
theorem Local.congr {F G : Reader α} {cs : List Char}
    {goesOn : List Char → α → List Char → Prop} (hG : Local goesOn G cs) (heq : F cs = G cs)
    (heqAppend : ∀ u, F (cs ++ ')' :: u) = G (cs ++ ')' :: u)) : Local goesOn F cs := by
  cases hG with
  | same a rest h happend =>
    exact .same a rest (heq.trans h) fun u ↦ (heqAppend u).trans (happend u)
  | comment a h hline hbreak =>
    exact .comment a (heq.trans h) (fun u hu ↦ (heqAppend u).trans (hline u hu))
      fun u b rest h' ↦ hbreak u b rest ((heqAppend u).symm.trans h')
  | stuck h hon =>
    exact .stuck (heq.trans h) fun u b rest h' ↦ hon u b rest ((heqAppend u).symm.trans h')

theorem Local.mono {F : Reader α} {cs : List Char}
    {goesOn goesOn' : List Char → α → List Char → Prop} (h : Local goesOn F cs)
    (hon : ∀ u a rest, goesOn u a rest → goesOn' u a rest) : Local goesOn' F cs := by
  cases h with
  | same a rest h happend => exact .same a rest h happend
  | comment a h hline hbreak => exact .comment a h hline hbreak
  | stuck h hon' => exact .stuck h fun u b rest h' ↦ hon u b rest (hon' u b rest h')

theorem Local.map {F : Reader α} {cs : List Char} {goesOn : List Char → α → List Char → Prop}
    {goesOn' : List Char → β → List Char → Prop} (h : Local goesOn F cs) (g : α → β)
    (hg : ∀ u a rest, goesOn u a rest → goesOn' u (g a) rest) :
    Local goesOn' (fun cs ↦ (F cs).map fun x ↦ (g x.1, x.2)) cs := by
  cases h with
  | same a rest h happend =>
    exact .same (g a) rest (by rw [h]; rfl) fun u ↦ by rw [happend]; rfl
  | comment a h hline hbreak =>
    refine .comment (g a) (by rw [h]; rfl) (fun u hu ↦ by rw [hline u hu]; rfl) fun u b rest h' ↦ ?_
    obtain ⟨⟨a', rest'⟩, ha, he⟩ := Option.map_eq_some_iff.mp h'
    cases he
    exact hbreak u a' rest' ha
  | stuck h hon =>
    refine .stuck (by rw [h]; rfl) fun u b rest h' ↦ ?_
    obtain ⟨⟨a', rest'⟩, ha, he⟩ := Option.map_eq_some_iff.mp h'
    cases he
    exact hg u a' rest' (hon u a' rest' ha)

/-- A first character that is read is not the end of the text. -/
theorem Local.cons {F : Reader α} {c : Char} {cs : List Char}
    {goesOn : List Char → α → List Char → Prop} (h : Local goesOn (fun cs ↦ F (c :: cs)) cs) :
    Local goesOn F (c :: cs) := by
  cases h with
  | same a rest h happend => exact .same a rest h happend
  | comment a h hline hbreak => exact .comment a h hline hbreak
  | stuck h hon => exact .stuck h hon

theorem head?_append_eq_iff {c d : Char} (hc : c ≠ d) (cs u : List Char) :
    (cs ++ d :: u).head? = some c ↔ cs.head? = some c := by
  cases cs with
  | nil => simp [hc.symm]
  | cons d cs => rfl

namespace Tame

variable {F : Reader α} {G : α → Reader β}

theorem pure (a : α) : Tame fun cs ↦ some (a, cs) where
  shrinks cs b rest h := by
    cases h
    exact List.suffix_refl cs
  isLocal cs := .same a cs rfl fun _ ↦ rfl
  indifferent x y u b h := by
    obtain ⟨rfl, hleft⟩ := Prod.mk.inj (Option.some.inj h)
    rw [List.append_cancel_right hleft]

theorem fail : Tame fun _ ↦ (none : Option (α × List Char)) where
  shrinks _ _ _ h := nomatch h
  isLocal _ := .stuck rfl fun _ _ _ h ↦ nomatch h
  indifferent _ _ _ _ h := nomatch h

theorem ofValue (a : Option α) (g : α → β) : Tame fun cs ↦ a.map fun a ↦ (g a, cs) := by
  cases a with
  | none => exact fail
  | some a => exact pure (g a)

theorem bind (hF : Tame F) (hG : ∀ a, Tame (G a)) :
    Tame fun cs ↦ (F cs).bind fun x ↦ G x.1 x.2 where
  shrinks := hF.shrinks.bind fun a ↦ (hG a).shrinks
  isLocal cs :=
    (hF.isLocal cs).bind_of_usedUp (fun a rest _ ↦ (hG a).isLocal rest) (fun a ↦ (hG a).shrinks)
      fun _ _ _ ↦ id
  indifferent := hF.indifferent.bind (fun a ↦ (hG a).indifferent) fun a ↦ (hG a).shrinks

theorem map (hF : Tame F) (g : α → β) : Tame fun cs ↦ (F cs).map fun x ↦ (g x.1, x.2) where
  shrinks cs b rest h := by
    obtain ⟨⟨a, rest'⟩, ha, he⟩ := Option.map_eq_some_iff.mp h
    cases he
    exact hF.shrinks cs a rest' ha
  isLocal cs := (hF.isLocal cs).map g fun _ _ _ ↦ id
  indifferent := hF.indifferent.map g

/-- A reader for which a closing parenthesis or a bar is like any other thing that follows. -/
theorem of_append (hshrinks : Shrinks F)
    (happend : ∀ stop, IsStop stop → ∀ cs u,
      F (cs ++ stop :: u) = (F cs).map fun x ↦ (x.1, x.2 ++ stop :: u)) :
    Tame F where
  shrinks := hshrinks
  isLocal cs := by
    cases h : F cs with
    | none =>
      refine .stuck h fun u a rest h' ↦ ?_
      rw [happend _ .paren, h] at h'
      cases h'
    | some x =>
      refine .same x.1 x.2 h fun u ↦ ?_
      rw [happend _ .paren, h]
      rfl
  indifferent x y u a h := by
    rw [happend _ .paren] at h
    obtain ⟨⟨a, rest⟩, hx, he⟩ := Option.map_eq_some_iff.mp h
    obtain ⟨rfl, hleft⟩ := Prod.mk.inj he
    rw [happend _ .bar, hx, ← List.append_cancel_right hleft]
    rfl

/-- A reader that fails at the end of a text and else goes by the first character. -/
theorem cons (hnil : F [] = none) (hcons : ∀ c, Tame fun cs ↦ F (c :: cs)) : Tame F where
  shrinks cs a rest h := by
    cases cs with
    | nil =>
      rw [hnil] at h
      cases h
    | cons c cs => exact ((hcons c).shrinks cs a rest h).trans (List.suffix_cons c cs)
  isLocal cs := by
    cases cs with
    | nil => exact .stuck hnil fun u b rest h ↦ (hcons ')').shrinks u b rest h
    | cons c cs => exact .cons ((hcons c).isLocal cs)
  indifferent := .cons (hcons ')').shrinks fun c ↦ (hcons c).indifferent

/-- A reader that goes by whether a text starts with a certain character, unless that is a closing
parenthesis or a bar. -/
theorem head {A B : Reader α} {c : Char} (hA : Tame A) (hB : Tame B) (hparen : c ≠ ')')
    (hbar : c ≠ '|') (hcons : ∀ cs, F (c :: cs) = A cs)
    (hother : ∀ cs, cs.head? ≠ some c → F cs = B cs) :
    Tame F where
  shrinks cs a rest h := by
    by_cases hc : cs.head? = some c
    · obtain ⟨cs, rfl⟩ : ∃ cs', cs = c :: cs' := List.head?_eq_some_iff.mp hc
      rw [hcons] at h
      exact (hA.shrinks cs a rest h).trans (List.suffix_cons c cs)
    · rw [hother cs hc] at h
      exact hB.shrinks cs a rest h
  isLocal cs := by
    by_cases hc : cs.head? = some c
    · obtain ⟨cs, rfl⟩ : ∃ cs', cs = c :: cs' := List.head?_eq_some_iff.mp hc
      exact .cons ((hA.isLocal cs).congr (hcons cs) fun u ↦ hcons (cs ++ ')' :: u))
    · refine (hB.isLocal cs).congr (hother cs hc) fun u ↦ hother (cs ++ ')' :: u) ?_
      rwa [Ne, head?_append_eq_iff hparen]
  indifferent x y u a h := by
    by_cases hc : x.head? = some c
    · obtain ⟨x, rfl⟩ : ∃ x', x = c :: x' := List.head?_eq_some_iff.mp hc
      rw [List.cons_append, hcons] at h ⊢
      exact hA.indifferent x y u a h
    · rw [hother _ (by rwa [Ne, head?_append_eq_iff hparen])] at h
      rw [hother _ (by rwa [Ne, head?_append_eq_iff hbar])]
      exact hB.indifferent x y u a h

end Tame

theorem Shrinks.make {F : Reader α} (hF : Shrinks F) (g : α → Option β) :
    Shrinks fun cs ↦ Reader.make (F cs) g :=
  hF.bind fun a ↦ (Tame.ofValue (g a) id).shrinks

theorem Local.make {F : Reader α} {cs : List Char} (hF : Local UsedUp F cs) (g : α → Option β) :
    Local UsedUp (fun cs ↦ Reader.make (F cs) g) cs := by
  have hg : ∀ a, Tame fun cs ↦ (g a).map (·, cs) := fun a ↦ .ofValue (g a) id
  exact hF.bind_of_usedUp (fun a rest _ ↦ (hg a).isLocal rest) (fun a ↦ (hg a).shrinks)
    fun _ _ _ ↦ id

theorem Indifferent.make {F : Reader α} (hF : Indifferent F) (g : α → Option β) :
    Indifferent fun cs ↦ Reader.make (F cs) g := by
  have hg : ∀ a, Tame fun cs ↦ (g a).map (·, cs) := fun a ↦ .ofValue (g a) id
  exact hF.bind (fun a ↦ (hg a).indifferent) fun a ↦ (hg a).shrinks

theorem Tame.make {F : Reader α} (hF : Tame F) (g : α → Option β) :
    Tame fun cs ↦ Reader.make (F cs) g :=
  ⟨hF.shrinks.make g, fun cs ↦ (hF.isLocal cs).make g, hF.indifferent.make g⟩

/-! ## Up to a character -/

/-- What stands before the first character that fails a test, made into something together with that
character. -/
def upTo? (p : Char → Bool) (g : List Char → Char → Option α) : Reader α := fun cs ↦
  match cs.dropWhile p with
  | [] => none
  | c :: rest => (g (cs.takeWhile p) c).map (·, rest)

section UpTo

variable {p : Char → Bool} {g : List Char → Char → Option α} {cs rest : List Char} {c : Char}

theorem upTo?_eq_none (h : cs.dropWhile p = []) : upTo? p g cs = none := by
  rw [upTo?, h]

theorem upTo?_eq_map (h : cs.dropWhile p = c :: rest) :
    upTo? p g cs = (g (cs.takeWhile p) c).map (·, rest) := by
  rw [upTo?, h]

theorem dropWhile_of_upTo? {a : α} (h : upTo? p g cs = some (a, rest)) :
    ∃ c, cs.dropWhile p = c :: rest := by
  cases hdrop : cs.dropWhile p with
  | nil =>
    rw [upTo?_eq_none hdrop] at h
    cases h
  | cons c rest' =>
    rw [upTo?_eq_map hdrop] at h
    obtain ⟨a', -, he⟩ := Option.map_eq_some_iff.mp h
    cases he
    exact ⟨c, rfl⟩

theorem upTo?_append (h : cs.dropWhile p = c :: rest) (u : List Char) :
    upTo? p g (cs ++ u) = (g (cs.takeWhile p) c).map (·, rest ++ u) := by
  have hdrop : (cs ++ u).dropWhile p = c :: (rest ++ u) := by
    rw [List.dropWhile_append, h]
    rfl
  have htake : (cs ++ u).takeWhile p = cs.takeWhile p := by
    have hlength := congrArg List.length (List.takeWhile_append_dropWhile (p := p) (l := cs))
    rw [h, List.length_append, List.length_cons] at hlength
    rw [List.takeWhile_append, if_neg (by omega)]
  rw [upTo?_eq_map hdrop, htake]

theorem tame_upTo? : Tame (upTo? p g) where
  shrinks cs a rest h := by
    obtain ⟨c, hdrop⟩ := dropWhile_of_upTo? h
    exact (List.suffix_cons c rest).trans (hdrop ▸ List.dropWhile_suffix p)
  isLocal cs := by
    cases hdrop : cs.dropWhile p with
    | nil =>
      refine .stuck (upTo?_eq_none hdrop) fun u a rest h ↦ ?_
      obtain ⟨c, hc⟩ := dropWhile_of_upTo? h
      rw [List.dropWhile_append, hdrop] at hc
      have hsuffix : c :: rest <:+ ')' :: u := hc ▸ List.dropWhile_suffix p
      rcases List.suffix_cons_iff.mp hsuffix with heq | hsuffix
      · rw [(List.cons.inj heq).2]
        exact List.suffix_refl u
      · exact (List.suffix_cons c rest).trans hsuffix
    | cons c rest =>
      cases hg : g (cs.takeWhile p) c with
      | none =>
        refine .stuck (by rw [upTo?_eq_map hdrop, hg]; rfl) fun u a rest' h ↦ ?_
        rw [upTo?_append hdrop, hg] at h
        cases h
      | some a =>
        refine .same a rest (by rw [upTo?_eq_map hdrop, hg]; rfl) fun u ↦ ?_
        rw [upTo?_append hdrop, hg]
        rfl
  indifferent x y u a h := by
    cases hdrop : x.dropWhile p with
    | nil =>
      -- The character that is read up to is not before the parenthesis.
      obtain ⟨c, hc⟩ := dropWhile_of_upTo? h
      rw [List.dropWhile_append, hdrop] at hc
      have hle : (c :: (y ++ ')' :: u)).length ≤ (')' :: u).length :=
        (hc ▸ List.dropWhile_suffix p : c :: (y ++ ')' :: u) <:+ ')' :: u).length_le
      simp only [List.length_cons, List.length_append] at hle
      omega
    | cons c rest =>
      rw [upTo?_append hdrop] at h ⊢
      obtain ⟨a', ha, he⟩ := Option.map_eq_some_iff.mp h
      obtain ⟨rfl, hleft⟩ := Prod.mk.inj he
      rw [ha, List.append_cancel_right hleft]
      rfl

end UpTo

/-! ## Layout -/

namespace Flags

theorem dropLayout_suffix (inComment : Bool) (cs : List Char) : dropLayout inComment cs <:+ cs := by
  fun_induction dropLayout inComment cs with
  | case1 => exact List.suffix_refl _
  | case2 c cs ih => exact ih.trans (List.suffix_cons c cs)
  | case3 _ c cs _ _ ih => exact ih.trans (List.suffix_cons c cs)
  | case4 _ cs _ _ ih => exact ih.trans (List.suffix_cons '#' cs)
  | case5 => exact List.suffix_refl _

/-- Layout ends before a closing parenthesis or a bar, unless it ends in a comment. -/
theorem dropLayout_append (inComment : Bool) (cs : List Char) :
    (∀ stop, IsStop stop →
      ∀ u, dropLayout inComment (cs ++ stop :: u) = dropLayout inComment cs ++ stop :: u) ∨
    dropLayout inComment cs = [] ∧ ∀ stop, IsStop stop →
      ∀ u, dropLayout inComment (cs ++ stop :: u) = dropLayout true u := by
  fun_induction dropLayout inComment cs with
  | case1 inComment =>
    cases inComment with
    | true =>
      refine .inr ⟨rfl, fun stop hstop u ↦ ?_⟩
      cases hstop <;> rfl
    | false =>
      refine .inl fun stop hstop u ↦ ?_
      cases hstop <;> rfl
  | case2 c cs ih =>
    simp only [List.cons_append, dropLayout, if_true]
    exact ih
  | case3 inComment c cs hcomment hblank ih =>
    simp only [List.cons_append, dropLayout, hcomment, hblank, if_true]
    exact ih
  | case4 inComment cs hcomment hblank ih =>
    simp only [List.cons_append, dropLayout, hcomment, hblank, if_true]
    exact ih
  | case5 inComment c cs hcomment hblank hc =>
    refine .inl fun _ _ u ↦ ?_
    simp [dropLayout, hcomment, hblank, hc]

theorem dropLayout_true_of_notMem {u : List Char} (h : '\n' ∉ u) : dropLayout true u = [] := by
  induction u with
  | nil => rfl
  | cons c u ih =>
    have hc : (c != '\n') = true := by
      rw [bne_iff_ne]
      rintro rfl
      exact h List.mem_cons_self
    rw [dropLayout, if_pos rfl, hc]
    exact ih fun hmem ↦ h (List.mem_cons_of_mem c hmem)

theorem skip_append (f : Flags) (cs : List Char) :
    (∀ stop, IsStop stop → ∀ u, f.skip (cs ++ stop :: u) = f.skip cs ++ stop :: u) ∨
      f.skip cs = [] ∧ ∀ stop, IsStop stop → ∀ u, f.skip (cs ++ stop :: u) = dropLayout true u := by
  unfold skip
  by_cases hv : f.verbose = true
  · simp only [hv, if_true]
    exact dropLayout_append false cs
  · simp only [hv]
    exact .inl fun _ _ _ ↦ rfl

/-- Skipping layout, as a reader. -/
theorem tame_skip (f : Flags) : Tame fun cs ↦ some ((), f.skip cs) where
  shrinks cs a rest h := by
    cases h
    unfold skip
    split
    · exact dropLayout_suffix false cs
    · exact List.suffix_refl cs
  isLocal cs := by
    rcases f.skip_append cs with happend | ⟨hnil, happend⟩
    · exact .same () _ rfl fun u ↦ by rw [happend _ .paren]
    · refine .comment () (by rw [hnil]) (fun u hu ↦ ?_) fun u b rest h ↦ ?_
      · rw [happend _ .paren, dropLayout_true_of_notMem hu]
      · rw [happend _ .paren] at h
        cases h
        exact dropLayout_suffix true u
  indifferent x y u a h := by
    have hleft := (Prod.mk.inj (Option.some.inj h)).2
    rcases f.skip_append x with happend | ⟨-, happend⟩
    · rw [happend _ .paren] at hleft
      change some ((), f.skip (x ++ '|' :: u)) = _
      rw [happend _ .bar, List.append_cancel_right hleft]
    · rw [happend _ .paren] at hleft
      exact absurd (hleft ▸ dropLayout_suffix true u) not_suffix_of_leftOver

end Flags

theorem Tame.skip {F : Reader α} (f : Flags) (hF : Tame F) : Tame fun cs ↦ F (f.skip cs) :=
  (Flags.tame_skip f).bind fun _ ↦ hF

namespace Flags

/-- One character of what stands before a closing brace. -/
theorem upToBrace?_cons (f : Flags) (inComment : Bool) (c : Char) :
    (∃ inComment', ∀ cs, f.upToBrace? inComment (c :: cs) = f.upToBrace? inComment' cs) ∨
      (∀ cs, f.upToBrace? inComment (c :: cs) = some ([], cs)) ∨
        ∀ cs, f.upToBrace? inComment (c :: cs)
          = (f.upToBrace? false cs).map fun x ↦ (c :: x.1, x.2) := by
  by_cases hcomment : inComment = true
  · exact .inl ⟨c != '\n', fun cs ↦ by rw [upToBrace?, if_pos hcomment]⟩
  by_cases hblank : (f.verbose && Text.isBlank c) = true
  · exact .inl ⟨false, fun cs ↦ by rw [upToBrace?, if_neg hcomment, if_pos hblank]⟩
  by_cases hsign : (f.verbose && c == '#') = true
  · exact .inl ⟨true, fun cs ↦ by rw [upToBrace?, if_neg hcomment, if_neg hblank, if_pos hsign]⟩
  by_cases hbrace : c = '\x7d'
  · refine .inr (.inl fun cs ↦ ?_)
    rw [upToBrace?, if_neg hcomment, if_neg hblank, if_neg hsign, if_pos hbrace]
  · refine .inr (.inr fun cs ↦ ?_)
    rw [upToBrace?, if_neg hcomment, if_neg hblank, if_neg hsign, if_neg hbrace]

theorem takes_upToBrace? (f : Flags) (inComment : Bool) : Takes (f.upToBrace? inComment) := by
  intro cs
  induction cs generalizing inComment with
  | nil => exact fun _ _ h ↦ nomatch h
  | cons c cs ih =>
    intro content rest h
    have hshrinks : ∀ inComment content rest, f.upToBrace? inComment cs = some (content, rest) →
        rest <:+ cs := by
      intro inComment content rest h
      obtain ⟨d, ds, rfl, hrest⟩ := ih inComment content rest h
      exact hrest.trans (List.suffix_cons d ds)
    refine ⟨c, cs, rfl, ?_⟩
    rcases f.upToBrace?_cons inComment c with ⟨inComment', hc⟩ | hc | hc
    · rw [hc] at h
      exact hshrinks inComment' content rest h
    · rw [hc] at h
      cases h
      exact List.suffix_refl cs
    · rw [hc] at h
      obtain ⟨⟨content', rest'⟩, h', he⟩ := Option.map_eq_some_iff.mp h
      cases he
      exact hshrinks false content' rest' h'

theorem tame_upToBrace? (f : Flags) (inComment : Bool) : Tame (f.upToBrace? inComment) where
  shrinks := (f.takes_upToBrace? inComment).shrinks
  isLocal cs := by
    induction cs generalizing inComment with
    | nil => exact .stuck rfl fun u content rest h ↦ (f.takes_upToBrace? inComment).suffix h
    | cons c cs ih =>
      refine .cons ?_
      rcases f.upToBrace?_cons inComment c with ⟨inComment', hc⟩ | hc | hc
      · rw [funext hc]
        exact ih inComment'
      · rw [funext hc]
        exact .same [] cs rfl fun _ ↦ rfl
      · rw [funext hc]
        exact (ih false).map _ fun _ _ _ ↦ id
  indifferent x := by
    induction x generalizing inComment with
    | nil =>
      intro y u content h
      exact absurd ((f.takes_upToBrace? inComment).suffix h) not_suffix_of_leftOver
    | cons c x ih =>
      intro y u content h
      rw [List.cons_append] at h ⊢
      rcases f.upToBrace?_cons inComment c with ⟨inComment', hc⟩ | hc | hc
      · rw [hc] at h ⊢
        exact ih inComment' y u content h
      · rw [hc] at h ⊢
        exact (Tame.pure []).indifferent x y u content h
      · rw [hc] at h ⊢
        obtain ⟨⟨content', rest⟩, h', he⟩ := Option.map_eq_some_iff.mp h
        cases he
        rw [ih false y u content' h']
        rfl

end Flags

end TagQuery.Regex
