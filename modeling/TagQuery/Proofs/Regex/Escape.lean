import TagQuery.Proofs.Regex.Reading
import TagQuery.Regex.Escape

/-!
# Reading escapes

All readers of escapes are tame but the one for `\b`. It looks past a brace and the layout after it,
and takes neither if no letter follows. At the end of a text it is stuck there; before a closing
parenthesis it is not, and leaves the brace, the layout and the parenthesis (`LeavesBrace`). What it
leaves is no count of repetitions either, since the parenthesis is no digit.
-/

namespace TagQuery.Regex.Primitive

theorem tame_hexDigits? (f : Flags) (n value : Nat) : Tame (hexDigits? f n value) := by
  induction n generalizing value with
  | zero => exact .pure value
  | succ n ih =>
    refine .cons rfl fun c ↦ ?_
    cases hc : Text.hexDigit? c with
    | none =>
      have hfail : (fun cs ↦ hexDigits? f (n + 1) value (c :: cs)) = fun _ ↦ none := by
        funext cs
        rw [hexDigits?, hc]
        rfl
      rw [hfail]
      exact .fail
    | some digit =>
      have hstep : (fun cs ↦ hexDigits? f (n + 1) value (c :: cs))
          = fun cs ↦ hexDigits? f n (16 * value + digit) (f.skip cs) := by
        funext cs
        rw [hexDigits?, hc]
        rfl
      rw [hstep]
      exact (ih _).skip f

theorem tame_digits? (f : Flags) (n : Nat) : Tame (digits? f n) := by
  have hbraces := (f.tame_upToBrace? false).make fun digits ↦
    (Text.ofHex? digits).bind character?
  have hplain := (tame_hexDigits? f n 0).make fun value ↦
    if n = 2 ∧ !f.unicode ∧ 0x7F < value then none else character? value
  refine .head (c := '\x7b') hbraces hplain (by decide) (by decide) (fun _ ↦ rfl) fun cs hcs ↦ ?_
  unfold digits?
  split
  · exact absurd rfl hcs
  · rfl

theorem tame_codePoint? (f : Flags) (n : Nat) : Tame (codePoint? f n) := (tame_digits? f n).skip f

theorem tame_propertyName? (f : Flags) (negated : Bool) : Tame (propertyName? f negated) := by
  refine .cons rfl fun c ↦ ?_
  by_cases hbrace : c = '\x7b'
  · rw [hbrace]
    exact (f.tame_upToBrace? false).make fun content ↦
      (property? content).bind fun x ↦ f.negate? (negated != x.1) (f.fold x.2)
  by_cases hback : c = '\\'
  · rw [hback]
    exact .fail
  have hletter : (fun cs ↦ propertyName? f negated (c :: cs)) = fun cs ↦
      ((namedProperty? [c]).bind fun a ↦ f.negate? negated (f.fold a)).map (·, cs) := by
    funext cs
    unfold propertyName?
    split
    · exact absurd (List.cons.inj ‹_›).1 hbrace
    · exact absurd (List.cons.inj ‹_›).1 hback
    · cases ‹_›
    · cases ‹_›
      rfl
  rw [hletter]
  exact .ofValue _ id

theorem tame_propertyClass? (f : Flags) (negated : Bool) : Tame (propertyClass? f negated) := by
  unfold propertyClass?
  split
  · exact (tame_propertyName? f negated).skip f
  · exact .fail

/-! ## Word boundaries -/

theorem upToBrace?_of_dropLayout {f : Flags} (hv : f.verbose = true) {inComment : Bool}
    {cs : List Char} (h : Flags.dropLayout inComment cs = []) :
    f.upToBrace? inComment cs = none := by
  fun_induction Flags.dropLayout inComment cs with
  | case1 => rfl
  | case2 c cs ih => simp [Flags.upToBrace?, ih h]
  | case3 _ c cs hcomment hblank ih => simp [Flags.upToBrace?, hcomment, hblank, hv, ih h]
  | case4 _ cs hcomment hblank ih => simp [Flags.upToBrace?, hcomment, hblank, hv, ih h]
  | case5 => cases h

/-- In layout there is no brace. -/
theorem upToBrace?_of_skip {f : Flags} {cs : List Char} (h : f.skip cs = []) :
    f.upToBrace? false cs = none := by
  unfold Flags.skip at h
  split at h
  · exact upToBrace?_of_dropLayout ‹_› h
  · rw [h]
    rfl

/-- What a reader leaves of a text that it goes on with: less than the closing parenthesis, or a
brace with nothing but layout between it and the parenthesis. -/
def LeavesBrace {α : Type} (f : Flags) (u : List Char) (_ : α) (rest : List Char) : Prop :=
  rest <:+ u ∨ ∃ layout, f.skip layout = [] ∧ rest = '\x7b' :: (layout ++ ')' :: u)

theorem shrinks_upToBraceMake {f : Flags} {α : Type} (g : List Char → Option α) :
    Shrinks fun cs ↦ Reader.make (f.upToBrace? false cs) g :=
  ((f.tame_upToBrace? false).make g).shrinks

theorem shrinks_boundary? (f : Flags) : Shrinks (boundary? f) := by
  intro cs a rest h
  unfold boundary? at h
  split at h
  · next cs =>
    unfold braceBoundary? at h
    split at h
    · cases h
    · split at h
      · exact (shrinks_upToBraceMake _ cs a rest h).trans (List.suffix_cons _ cs)
      · cases h
        exact List.suffix_refl _
  · cases h
    exact List.suffix_refl _

theorem local_braceBoundary? (f : Flags) (cs : List Char) :
    Local (LeavesBrace f) (braceBoundary? f) cs := by
  have hname := ((f.tame_upToBrace? false).make fun name ↦
    braceLook? (!f.unicode) (.ofList name)).isLocal cs
  cases (f.tame_skip).isLocal cs with
  | stuck h => cases h
  | same a rest h happend =>
    obtain rfl : f.skip cs = rest := (Prod.mk.inj (Option.some.inj h)).2
    have hskip : ∀ u, f.skip (cs ++ ')' :: u) = f.skip cs ++ ')' :: u :=
      fun u ↦ (Prod.mk.inj (Option.some.inj (happend u))).2
    cases hcs : f.skip cs with
    | nil =>
      -- The parenthesis is no letter, so the brace is left.
      refine .stuck (by rw [braceBoundary?, hcs]) fun u b rest h' ↦ .inr ⟨cs, hcs, ?_⟩
      rw [braceBoundary?, hskip, hcs] at h'
      cases h'
      rfl
    | cons c rest =>
      by_cases hc : isLookLetter c = true
      · refine (hname.mono fun u _ rest' ↦ .inl).congr ?_ fun u ↦ ?_
        · rw [braceBoundary?, hcs]
          exact if_pos hc
        · rw [braceBoundary?, hskip, hcs]
          exact if_pos hc
      · refine .same (.wordBoundary (!f.unicode)) ('\x7b' :: cs) ?_ fun u ↦ ?_
        · rw [braceBoundary?, hcs]
          exact if_neg hc
        · rw [braceBoundary?, hskip, hcs]
          exact if_neg hc
  | comment a h hline hbreak =>
    have hcs : f.skip cs = [] := (Prod.mk.inj (Option.some.inj h)).2
    refine .stuck (by rw [braceBoundary?, hcs]) fun u b rest h' ↦ ?_
    unfold braceBoundary? at h'
    split at h'
    · cases h'
    · split at h'
      · -- There is no brace in the layout, so the name goes on after it.
        have hnone : f.upToBrace? false cs = none := upToBrace?_of_skip hcs
        cases hname with
        | same a rest h =>
          rw [hnone] at h
          cases h
        | comment a h =>
          rw [hnone] at h
          cases h
        | stuck _ hon => exact .inl (hon u b rest h')
      · cases h'
        exact .inr ⟨cs, hcs, rfl⟩

theorem boundary?_cons (f : Flags) {c : Char} (hc : c ≠ '\x7b') (cs : List Char) :
    boundary? f (c :: cs) = some (.wordBoundary (!f.unicode), c :: cs) := by
  unfold boundary?
  split
  · exact absurd (List.cons.inj ‹_›).1 hc
  · rfl

theorem local_boundary? (f : Flags) (cs : List Char) : Local (LeavesBrace f) (boundary? f) cs := by
  cases cs with
  | nil => exact .same _ [] rfl fun _ ↦ rfl
  | cons c cs =>
    by_cases hc : c = '\x7b'
    · rw [hc]
      exact .cons (local_braceBoundary? f cs)
    · have hplain := boundary?_cons f hc
      exact .same _ (c :: cs) (hplain cs) fun u ↦ hplain (cs ++ ')' :: u)

/-- Whether a letter follows the brace is known without looking past a parenthesis that is left, or
else a comment hides it and a bar alike. -/
theorem indifferent_braceBoundary? (f : Flags) : Indifferent (braceBoundary? f) := by
  have heq : ∀ cs, braceBoundary? f cs =
      ((f.skip cs).head?.map isLookLetter).bind fun letter ↦
        if letter then
          Reader.make (f.upToBrace? false cs) fun name ↦ braceLook? (!f.unicode) (.ofList name)
        else some (.wordBoundary (!f.unicode), '\x7b' :: cs) := by
    intro cs
    rw [braceBoundary?]
    cases f.skip cs <;> rfl
  intro x y u l h
  have hletter : (f.skip (x ++ '|' :: u)).head?.map isLookLetter =
      (f.skip (x ++ ')' :: u)).head?.map isLookLetter := by
    rcases f.skip_append x with happend | ⟨-, happend⟩
    · rw [happend _ .bar, happend _ .paren]
      cases f.skip x <;> rfl
    · rw [happend _ .bar, happend _ .paren]
  rw [heq] at h ⊢
  obtain ⟨letter, hsome, h⟩ := Option.bind_eq_some_iff.mp h
  rw [hletter, hsome, Option.bind_some]
  cases letter with
  | true =>
    exact ((f.tame_upToBrace? false).make fun name ↦
      braceLook? (!f.unicode) (.ofList name)).indifferent x y u l h
  | false => exact (Tame.pure _).indifferent ('\x7b' :: x) y u l h

theorem indifferent_boundary? (f : Flags) : Indifferent (boundary? f) := by
  intro x y u l h
  cases x with
  | nil => exact (Tame.pure _).indifferent [] y u l h
  | cons c x =>
    by_cases hc : c = '\x7b'
    · rw [hc] at h ⊢
      exact indifferent_braceBoundary? f x y u l h
    · rw [List.cons_append, boundary?_cons f hc] at h ⊢
      exact (Tame.pure _).indifferent (c :: x) y u l h

/-! ## Escapes -/

/-- Only the boundaries of words are not tame. -/
theorem tame_meaning? (f : Flags) {c : Char} (hc : c ≠ 'b') : Tame (meaning? f c) := by
  unfold meaning?
  split
  · exact (tame_codePoint? f 2).map character
  · exact (tame_codePoint? f 4).map character
  · exact (tame_codePoint? f 8).map character
  · exact (tame_propertyClass? f false).map chars
  · exact (tame_propertyClass? f true).map chars
  all_goals first
    | exact absurd rfl hc
    | exact .ofValue _ chars
    | exact .pure _
    | exact .fail

theorem shrinks_meaning? (f : Flags) (c : Char) : Shrinks (meaning? f c) := by
  by_cases hc : c = 'b'
  · intro cs p rest h
    rw [hc] at h
    obtain ⟨⟨l, rest'⟩, hl, he⟩ := Option.map_eq_some_iff.mp h
    cases he
    exact shrinks_boundary? f cs l rest' hl
  · exact (tame_meaning? f hc).shrinks

theorem takes_escape? (f : Flags) : Takes (escape? f) := by
  refine .cons rfl fun c cs p rest h ↦ ?_
  rw [escape?] at h
  split at h
  · cases h
    exact List.suffix_refl cs
  · exact shrinks_meaning? f c cs p rest h

theorem local_escape? (f : Flags) (cs : List Char) : Local (LeavesBrace f) (escape? f) cs := by
  cases cs with
  | nil => exact .stuck rfl fun u p rest h ↦ .inl ((takes_escape? f).suffix h)
  | cons c cs =>
    refine .cons ?_
    by_cases hescapable : isEscapable c = true
    · have hchar : ∀ cs, escape? f (c :: cs) = some (character c, cs) := fun _ ↦ if_pos hescapable
      exact .same (character c) cs (hchar cs) fun u ↦ hchar (cs ++ ')' :: u)
    · have hmeaning : ∀ cs, escape? f (c :: cs) = meaning? f c cs := fun _ ↦ if_neg hescapable
      refine Local.congr ?_ (hmeaning cs) fun u ↦ hmeaning (cs ++ ')' :: u)
      by_cases hc : c = 'b'
      · rw [hc]
        exact (local_boundary? f cs).map look fun _ _ _ ↦ id
      · exact ((tame_meaning? f hc).isLocal cs).mono fun u _ rest ↦ .inl

theorem indifferent_escape? (f : Flags) : Indifferent (escape? f) := by
  refine .cons (fun _ _ _ ↦ (takes_escape? f).suffix) fun c ↦ ?_
  by_cases hescapable : isEscapable c = true
  · have hchar : (fun cs ↦ escape? f (c :: cs)) = fun cs ↦ some (character c, cs) :=
      funext fun _ ↦ if_pos hescapable
    rw [hchar]
    exact (Tame.pure _).indifferent
  · have hmeaning : (fun cs ↦ escape? f (c :: cs)) = meaning? f c :=
      funext fun _ ↦ if_neg hescapable
    rw [hmeaning]
    by_cases hc : c = 'b'
    · rw [hc]
      exact (indifferent_boundary? f).map look
    · exact (tame_meaning? f hc).indifferent

/-- Escapes are tame where looks are faults, for there is no brace to leave. -/
theorem tame_makeEscape? {α : Type} (f : Flags) {g : Primitive → Option α}
    (hg : ∀ l, g (look l) = none) : Tame fun cs ↦ Reader.make (escape? f cs) g := by
  refine .cons rfl fun c ↦ ?_
  by_cases hescapable : isEscapable c = true
  · have hchar : (fun cs ↦ Reader.make (escape? f (c :: cs)) g)
        = fun cs ↦ (g (character c)).map (·, cs) := by
      funext cs
      rw [escape?, if_pos hescapable]
      rfl
    rw [hchar]
    exact .ofValue _ id
  · have hmeaning : (fun cs ↦ Reader.make (escape? f (c :: cs)) g)
        = fun cs ↦ Reader.make (meaning? f c cs) g := by
      funext cs
      rw [escape?, if_neg hescapable]
    rw [hmeaning]
    by_cases hc : c = 'b'
    · have hfail : (fun cs ↦ Reader.make (meaning? f 'b' cs) g) = fun _ ↦ none := by
        funext cs
        change Reader.make ((boundary? f cs).map fun x ↦ (look x.1, x.2)) g = none
        cases boundary? f cs with
        | none => rfl
        | some x =>
          change (g (look x.1)).map (·, x.2) = none
          rw [hg]
          rfl
      rw [hc, hfail]
      exact .fail
    · exact (tame_meaning? f hc).make g

end TagQuery.Regex.Primitive
