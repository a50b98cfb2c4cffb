import TagQuery.Proofs.Regex.Bracket
import TagQuery.Regex.Parser

/-!
# Reading expressions

An expression ends at a closing parenthesis or with the text, so its reader is local
(`local_readChoice?`): what stands before a closing parenthesis is read as if it stood alone, unless
it ends in a comment.

Pieces are not quite tame. A word boundary and a brace after it are stuck at the end of a text but
not before a closing parenthesis (`LeavesPart`); there the brace opens a count, which cannot end
before the parenthesis.

## The depth

The count that bounds the recursion does not matter once it is large enough (`depth_congr`). What is
proved about expressions is therefore proved about `readChoice?`, by induction on the length of the
text.
-/

namespace TagQuery.Regex.Parser

/-! ## Groups -/

theorem named?_eq (ctx : Context) : named? ctx = upTo? (· != '>') fun name _ ↦
    if isName name && !ctx.names.contains (.ofList name) then
      some (.group { ctx with names := .ofList name :: ctx.names })
    else none := by
  funext cs
  unfold named? upTo?
  cases cs.dropWhile (· != '>') with
  | nil => rfl
  | cons c rest =>
    dsimp only
    split <;> rfl

theorem flagged?_eq (ctx : Context) :
    flagged? ctx = upTo? (fun c ↦ c != ':' && c != ')') fun letters c ↦
      if Flags.isDirective letters then
        match c with
        | ':' => some (.group { ctx with flags := ctx.flags.direct letters })
        | ')' => if letters.isEmpty then none else some (.directive (ctx.flags.direct letters))
        | _ => none
      else none := by
  funext cs
  unfold flagged? upTo?
  generalize cs.takeWhile (fun c ↦ c != ':' && c != ')') = letters
  cases cs.dropWhile (fun c ↦ c != ':' && c != ')') with
  | nil => exact ite_self none
  | cons c rest =>
    dsimp only
    by_cases hdirective : Flags.isDirective letters = true
    · rw [if_pos hdirective, if_pos hdirective]
      split
      · next heq =>
        cases heq
        rfl
      · next heq =>
        cases heq
        split <;> rfl
      · next hcolon hparen =>
        split
        · exact absurd rfl (hcolon rest)
        · exact absurd rfl (hparen rest)
        · rfl
    · rw [if_neg hdirective, if_neg hdirective]
      rfl

theorem tame_named? (ctx : Context) : Tame (named? ctx) := named?_eq ctx ▸ tame_upTo?

theorem tame_flagged? (ctx : Context) : Tame (flagged? ctx) := flagged?_eq ctx ▸ tame_upTo?

theorem opening?_flagged (ctx : Context) {cs : List Char} (hname : cs.head? ≠ some '<')
    (hname' : cs.take 2 ≠ ['P', '<']) : opening? ctx ('?' :: cs) = flagged? ctx cs := by
  unfold opening?
  split
  · cases ‹_ = _›
    exact absurd rfl hname'
  · cases ‹_ = _›
    exact absurd rfl hname
  · cases ‹_ = _›
    rfl
  · next hmark => exact absurd rfl (hmark cs)

theorem eq_cons_of_take_two {cs : List Char} {c d : Char} (h : cs.take 2 = [c, d]) :
    ∃ rest, cs = c :: d :: rest := by
  match cs with
  | [] => cases h
  | [_] => cases h
  | _ :: _ :: rest =>
    cases h
    exact ⟨rest, rfl⟩

theorem opening?_flagged_append (ctx : Context) {stop : Char} (hstop : IsStop stop)
    {cs : List Char} (hname : cs.head? ≠ some '<') (hname' : cs.take 2 ≠ ['P', '<'])
    (u : List Char) : opening? ctx ('?' :: (cs ++ stop :: u)) = flagged? ctx (cs ++ stop :: u) := by
  refine opening?_flagged ctx ?_ fun heq ↦ ?_
  · rwa [Ne, head?_append_eq_iff (by cases hstop <;> decide)]
  · match cs with
    | [] => cases hstop <;> cases heq
    | [c] => cases hstop <;> cases heq
    | c :: d :: cs => exact hname' heq

/-- What follows a question mark names a group or sets flags. -/
theorem tame_openingMark? (ctx : Context) : Tame fun cs ↦ opening? ctx ('?' :: cs) where
  shrinks cs p rest h := by
    by_cases hname : cs.head? = some '<'
    · obtain ⟨cs, rfl⟩ : ∃ cs', cs = '<' :: cs' := List.head?_eq_some_iff.mp hname
      exact ((tame_named? ctx).shrinks cs p rest h).trans (List.suffix_cons '<' cs)
    by_cases hname' : cs.take 2 = ['P', '<']
    · obtain ⟨cs, rfl⟩  := eq_cons_of_take_two hname'
      exact ((tame_named? ctx).shrinks cs p rest h).trans ⟨['P', '<'], rfl⟩
    · replace h : opening? ctx ('?' :: cs) = some (p, rest) := h
      rw [opening?_flagged ctx hname hname'] at h
      exact (tame_flagged? ctx).shrinks cs p rest h
  isLocal cs := by
    by_cases hname : cs.head? = some '<'
    · obtain ⟨cs, rfl⟩ : ∃ cs', cs = '<' :: cs' := List.head?_eq_some_iff.mp hname
      exact .cons ((tame_named? ctx).isLocal cs)
    by_cases hname' : cs.take 2 = ['P', '<']
    · obtain ⟨cs, rfl⟩  := eq_cons_of_take_two hname'
      exact .cons (.cons ((tame_named? ctx).isLocal cs))
    · exact ((tame_flagged? ctx).isLocal cs).congr (opening?_flagged ctx hname hname')
        (opening?_flagged_append ctx .paren hname hname')
  indifferent x y u p h := by
    by_cases hname : x.head? = some '<'
    · obtain ⟨x, rfl⟩ : ∃ x', x = '<' :: x' := List.head?_eq_some_iff.mp hname
      exact (tame_named? ctx).indifferent x y u p h
    by_cases hname' : x.take 2 = ['P', '<']
    · obtain ⟨x, rfl⟩ := eq_cons_of_take_two hname'
      exact (tame_named? ctx).indifferent x y u p h
    · replace h := (opening?_flagged_append ctx .paren hname hname' u).symm.trans h
      refine (opening?_flagged_append ctx .bar hname hname' u).trans ?_
      exact (tame_flagged? ctx).indifferent x y u p h

theorem tame_opening? (ctx : Context) : Tame (opening? ctx) := by
  refine .head (c := '?') (tame_openingMark? ctx) (.pure (.group ctx)) (by decide) (by decide)
    (fun _ ↦ rfl) fun cs hcs ↦ ?_
  unfold opening?
  split
  · exact absurd rfl hcs
  · exact absurd rfl hcs
  · exact absurd rfl hcs
  · rfl

/-! ## Pieces -/

/-- A mark for a reluctant repetition, as a reader. -/
theorem tame_dropReluctant (p : Piece) : Tame fun cs ↦ some (p, dropReluctant cs) := by
  refine .head (c := '?') (.pure p) (.pure p) (by decide) (by decide) (fun _ ↦ rfl) fun cs hcs ↦ ?_
  unfold dropReluctant
  split
  · exact absurd rfl hcs
  · rfl

theorem tame_braces? (f : Flags) : Tame (braces? f) := by
  have hbraces : braces? f = fun cs ↦ (Reader.make (f.upToBrace? false cs) bounds?).bind fun x ↦
      some (.again x.1.1 x.1.2, dropReluctant (f.skip x.2)) := by
    funext cs
    rw [braces?, Option.map_eq_bind]
    rfl
  rw [hbraces]
  exact ((f.tame_upToBrace? false).make bounds?).bind fun b ↦
    (tame_dropReluctant (.again b.1 b.2)).skip f

/-- A count does not end in layout. -/
theorem suffix_of_braces? {f : Flags} {layout u rest : List Char} {p : Piece}
    (hlayout : f.skip layout = []) (h : braces? f (layout ++ ')' :: u) = some (p, rest)) :
    rest <:+ u := by
  have hnone : braces? f layout = none := by
    rw [braces?, Primitive.upToBrace?_of_skip hlayout]
    rfl
  cases (tame_braces? f).isLocal layout with
  | same a rest' h' =>
    rw [hnone] at h'
    cases h'
  | comment a h' =>
    rw [hnone] at h'
    cases h'
  | stuck _ hon => exact hon u p rest h

/-- Everything but the end of a sequence and escapes is tame. -/
theorem tame_pieceFrom? (ctx : Context) {c : Char} (hbar : c ≠ '|') (hparen : c ≠ ')')
    (hback : c ≠ '\\') : Tame (pieceFrom? ctx c) := by
  unfold pieceFrom?
  dsimp only
  split
  · exact absurd rfl hbar
  · exact absurd rfl hparen
  · exact (tame_opening? ctx).skip ctx.flags
  · exact (Bracket.tame_read? ctx.flags).map fun a ↦ Piece.part (.chars a)
  · exact tame_dropReluctant _
  · exact tame_dropReluctant _
  · exact tame_dropReluctant _
  · exact tame_braces? ctx.flags
  · exact absurd rfl hback
  · exact .ofValue _ _
  · exact .pure _
  · exact .pure _
  · exact .pure _

/-- What comes next where there is no layout. -/
def pieceHere? (ctx : Context) : Reader Piece
  | [] => some (.stop, [])
  | c :: rest => pieceFrom? ctx c rest

theorem piece?_eq (ctx : Context) :
    piece? ctx = fun cs ↦ (some ((), ctx.flags.skip cs)).bind fun x ↦ pieceHere? ctx x.2 := by
  funext cs
  unfold piece?
  cases ctx.flags.skip cs <;> rfl

/-- What a reader of pieces leaves of a text that it goes on with: less than the closing
parenthesis, or a brace with nothing but layout between it and the parenthesis, after a part. -/
def LeavesPart (f : Flags) (u : List Char) (p : Piece) (rest : List Char) : Prop :=
  rest <:+ u ∨ (∃ r, p = .part r) ∧
    ∃ layout, f.skip layout = [] ∧ rest = '\x7b' :: (layout ++ ')' :: u)

theorem shrinks_pieceFrom? (ctx : Context) {c : Char} (hbar : c ≠ '|') (hparen : c ≠ ')') :
    Shrinks (pieceFrom? ctx c) := by
  by_cases hback : c = '\\'
  · intro cs p rest h
    rw [hback] at h
    obtain ⟨⟨q, rest'⟩, hq, he⟩ := Option.map_eq_some_iff.mp h
    cases he
    exact (Primitive.takes_escape? ctx.flags).shrinks cs q rest' hq
  · exact (tame_pieceFrom? ctx hbar hparen hback).shrinks

/-- A piece takes one character at least, unless a sequence ends. -/
theorem pieceHere?_cases {ctx : Context} {cs rest : List Char} {p : Piece}
    (h : pieceHere? ctx cs = some (p, rest)) :
    p = .stop ∧ rest = cs ∨ ∃ c cs', cs = c :: cs' ∧ rest <:+ cs' := by
  cases cs with
  | nil =>
    cases h
    exact .inl ⟨rfl, rfl⟩
  | cons c cs =>
    by_cases hbar : c = '|'
    · rw [hbar] at h
      cases h
      exact .inl ⟨rfl, by rw [hbar]⟩
    by_cases hparen : c = ')'
    · rw [hparen] at h
      cases h
      exact .inl ⟨rfl, by rw [hparen]⟩
    · exact .inr ⟨c, cs, rfl, shrinks_pieceFrom? ctx hbar hparen cs p rest h⟩

theorem shrinks_pieceHere? (ctx : Context) : Shrinks (pieceHere? ctx) := by
  intro cs p rest h
  rcases pieceHere?_cases h with ⟨-, rfl⟩ | ⟨c, cs', rfl, hrest⟩
  · exact List.suffix_refl rest
  · exact hrest.trans (List.suffix_cons c cs')

theorem shrinks_piece? (ctx : Context) : Shrinks (piece? ctx) :=
  piece?_eq ctx ▸ ctx.flags.tame_skip.shrinks.bind fun _ ↦ shrinks_pieceHere? ctx

theorem length_lt_of_piece? {ctx : Context} {cs rest : List Char} {p : Piece}
    (h : piece? ctx cs = some (p, rest)) (hp : p ≠ .stop) : rest.length < cs.length := by
  rw [piece?_eq] at h
  replace h : pieceHere? ctx (ctx.flags.skip cs) = some (p, rest) := h
  have hskip := (ctx.flags.tame_skip.shrinks cs () _ rfl).length_le
  rcases pieceHere?_cases h with ⟨hstop, -⟩ | ⟨c, cs', heq, hrest⟩
  · exact absurd hstop hp
  · have hlength := congrArg List.length heq
    have hle := hrest.length_le
    rw [List.length_cons] at hlength
    omega

theorem local_pieceHere? (ctx : Context) (cs : List Char) :
    Local (LeavesPart ctx.flags) (pieceHere? ctx) cs := by
  cases cs with
  | nil => exact .same .stop [] rfl fun _ ↦ rfl
  | cons c cs =>
    by_cases hbar : c = '|'
    · rw [hbar]
      exact .same .stop ('|' :: cs) rfl fun _ ↦ rfl
    by_cases hparen : c = ')'
    · rw [hparen]
      exact .same .stop (')' :: cs) rfl fun _ ↦ rfl
    refine .cons ?_
    by_cases hback : c = '\\'
    · rw [hback]
      refine (Primitive.local_escape? ctx.flags cs).map
        (fun q ↦ Piece.part (ofPrimitive ctx.flags q)) fun u q rest h ↦ ?_
      exact h.imp_right fun hbrace ↦ ⟨⟨_, rfl⟩, hbrace⟩
    · exact ((tame_pieceFrom? ctx hbar hparen hback).isLocal cs).mono fun _ _ _ ↦ .inl

theorem local_piece? (ctx : Context) (cs : List Char) :
    Local (LeavesPart ctx.flags) (piece? ctx) cs := by
  rw [piece?_eq]
  exact (ctx.flags.tame_skip.isLocal cs).bind_of_usedUp (fun _ rest _ ↦ local_pieceHere? ctx rest)
    (fun _ ↦ shrinks_pieceHere? ctx) fun _ _ _ ↦ .inl

theorem indifferent_pieceHere? (ctx : Context) : Indifferent (pieceHere? ctx) := by
  have hstop := (Tame.pure Piece.stop).indifferent
  intro x y u p h
  cases x with
  | nil => exact hstop [] y u p h
  | cons c x =>
    by_cases hbar : c = '|'
    · rw [hbar] at h ⊢
      exact hstop ('|' :: x) y u p h
    by_cases hparen : c = ')'
    · rw [hparen] at h ⊢
      exact hstop (')' :: x) y u p h
    by_cases hback : c = '\\'
    · rw [hback] at h ⊢
      exact (Primitive.indifferent_escape? ctx.flags).map
        (fun q ↦ Piece.part (ofPrimitive ctx.flags q)) x y u p h
    · exact (tame_pieceFrom? ctx hbar hparen hback).indifferent x y u p h

theorem indifferent_piece? (ctx : Context) : Indifferent (piece? ctx) :=
  piece?_eq ctx ▸ ctx.flags.tame_skip.indifferent.bind (fun _ ↦ indifferent_pieceHere? ctx)
    fun _ ↦ shrinks_pieceHere? ctx

/-- After a brace that only layout separates from a closing parenthesis, a count goes on beyond the
parenthesis. -/
theorem suffix_of_piece?_brace {ctx : Context} {layout u rest : List Char} {p : Piece}
    (hlayout : ctx.flags.skip layout = [])
    (h : piece? ctx ('\x7b' :: (layout ++ ')' :: u)) = some (p, rest)) : rest <:+ u := by
  have hskip : ctx.flags.skip ('\x7b' :: (layout ++ ')' :: u))
      = '\x7b' :: (layout ++ ')' :: u) := by
    unfold Flags.skip
    split <;> rfl
  rw [piece?, hskip] at h
  exact suffix_of_braces? hlayout h

/-! ## The depth -/

/-- A reader for the rest of a sequence, given what has been read of it. -/
abbrev Rest := Context → Regex → Option Regex → Reader (Regex × Context)

/-- What is read after the inside of a group. -/
def closed (sequence : Rest) (ctx : Context) (done : Regex) (last : Option Regex)
    (x : Regex × Context) : Reader (Regex × Context)
  | ')' :: rest => sequence { ctx with names := x.2.names } (append done last) (some x.1) rest
  | _ => none

/-- What is read after a piece. -/
def after (choice : Context → Reader (Regex × Context)) (sequence : Rest) (ctx : Context)
    (done : Regex) (last : Option Regex) : Piece → Reader (Regex × Context)
  | .stop => fun cs ↦ some ((append done last, ctx), cs)
  | .directive flags => sequence { ctx with flags } (append done last) none
  | .group inner => fun cs ↦ (choice inner cs).bind fun x ↦ closed sequence ctx done last x.1 x.2
  | .part r => sequence ctx (append done last) (some r)
  | .again min max => fun cs ↦ last.bind fun r ↦
    sequence ctx done (some (.repetition r min max)) cs

/-- What is read after a sequence. -/
def others (choice : Context → Reader (Regex × Context)) (x : Regex × Context) :
    Reader (Regex × Context)
  | '|' :: cs => (choice x.2 cs).map fun y ↦ ((.alt x.1 y.1.1, y.1.2), y.2)
  | cs => some (x, cs)

theorem choice?_succ (depth : Nat) (ctx : Context) (cs : List Char) :
    choice? (depth + 1) ctx cs = (sequence? depth ctx .empty none cs).bind fun x ↦
      others (choice? depth) x.1 x.2 := by
  rw [choice?]
  cases sequence? depth ctx .empty none cs with
  | none => rfl
  | some x =>
    obtain ⟨⟨r, ctx⟩, rest⟩ := x
    by_cases hbar : rest.head? = some '|'
    · obtain ⟨rest, rfl⟩ : ∃ rest', rest = '|' :: rest' := List.head?_eq_some_iff.mp hbar
      change (choice? depth ctx rest).bind _ = (choice? depth ctx rest).map _
      cases choice? depth ctx rest <;> rfl
    · dsimp only [bind, Option.bind_some]
      unfold others
      split
      · cases ‹(_ : (Regex × Context) × List Char) = _›
        exact absurd rfl hbar
      · cases ‹(_ : (Regex × Context) × List Char) = _›
        split
        · exact absurd rfl hbar
        · rfl

theorem sequence?_succ (depth : Nat) (ctx : Context) (done : Regex) (last : Option Regex)
    (cs : List Char) : sequence? (depth + 1) ctx done last cs = (piece? ctx cs).bind fun x ↦
      after (choice? depth) (sequence? depth) ctx done last x.1 x.2 := by
  rw [sequence?]
  cases piece? ctx cs with
  | none => rfl
  | some x =>
    obtain ⟨p, rest⟩ := x
    cases p with
    | stop => rfl
    | directive flags => rfl
    | part r => rfl
    | again min max => cases last <;> rfl
    | group inner =>
      change (choice? depth inner rest).bind _ = (choice? depth inner rest).bind _
      cases choice? depth inner rest with
      | none => rfl
      | some x =>
        obtain ⟨⟨r, inner⟩, rest⟩ := x
        by_cases hparen : rest.head? = some ')'
        · obtain ⟨rest, rfl⟩ : ∃ rest', rest = ')' :: rest' := List.head?_eq_some_iff.mp hparen
          rfl
        · dsimp only [Option.bind_some]
          unfold closed
          split
          · cases ‹(_ : (Regex × Context) × List Char) = _›
            exact absurd rfl hparen
          · split
            · exact absurd rfl hparen
            · rfl

section Readers

variable {choice choice' : Context → Reader (Regex × Context)} {sequence sequence' : Rest}
  {cs : List Char}

theorem closed_of_head? (h : cs.head? ≠ some ')') (ctx : Context) (done : Regex)
    (last : Option Regex) (x : Regex × Context) : closed sequence ctx done last x cs = none := by
  unfold closed
  split
  · exact absurd rfl h
  · rfl

theorem others_of_head? (h : cs.head? ≠ some '|') (x : Regex × Context) :
    others choice x cs = some (x, cs) := by
  unfold others
  split
  · exact absurd rfl h
  · rfl

theorem shrinks_closed (hsequence : ∀ ctx done last, Shrinks (sequence ctx done last))
    (ctx : Context) (done : Regex) (last : Option Regex) (x : Regex × Context) :
    Shrinks (closed sequence ctx done last x) := by
  intro cs y rest h
  by_cases hparen : cs.head? = some ')'
  · obtain ⟨cs, rfl⟩ : ∃ cs', cs = ')' :: cs' := List.head?_eq_some_iff.mp hparen
    exact (hsequence _ _ _ cs y rest h).trans (List.suffix_cons ')' cs)
  · rw [closed_of_head? hparen] at h
    cases h

theorem shrinks_after (hchoice : ∀ ctx, Shrinks (choice ctx))
    (hsequence : ∀ ctx done last, Shrinks (sequence ctx done last)) (ctx : Context) (done : Regex)
    (last : Option Regex) (p : Piece) : Shrinks (after choice sequence ctx done last p) := by
  cases p with
  | stop => exact (Tame.pure _).shrinks
  | directive flags => exact hsequence _ _ _
  | group inner => exact (hchoice inner).bind (shrinks_closed hsequence ctx done last)
  | part r => exact hsequence _ _ _
  | again min max =>
    cases last with
    | none => exact Tame.fail.shrinks
    | some r => exact hsequence _ _ _

theorem shrinks_others (hchoice : ∀ ctx, Shrinks (choice ctx)) (x : Regex × Context) :
    Shrinks (others choice x) := by
  intro cs y rest h
  by_cases hbar : cs.head? = some '|'
  · obtain ⟨cs, rfl⟩ : ∃ cs', cs = '|' :: cs' := List.head?_eq_some_iff.mp hbar
    obtain ⟨⟨z, rest'⟩, hz, he⟩ := Option.map_eq_some_iff.mp h
    cases he
    exact (hchoice _ cs z rest' hz).trans (List.suffix_cons '|' cs)
  · rw [others_of_head? hbar] at h
    cases h
    exact List.suffix_refl cs

theorem after_congr (hshrinks : ∀ ctx, Shrinks (choice ctx))
    (hchoice : ∀ ctx, choice ctx cs = choice' ctx cs)
    (hsequence : ∀ ctx done last rest, rest <:+ cs →
      sequence ctx done last rest = sequence' ctx done last rest)
    (ctx : Context) (done : Regex) (last : Option Regex) (p : Piece) :
    after choice sequence ctx done last p cs = after choice' sequence' ctx done last p cs := by
  cases p with
  | stop => rfl
  | directive flags => exact hsequence _ _ _ cs (List.suffix_refl cs)
  | group inner =>
    change (choice inner cs).bind _ = (choice' inner cs).bind _
    rw [← hchoice]
    cases hcs : choice inner cs with
    | none => rfl
    | some x =>
      have hsuffix := hshrinks inner cs x.1 x.2 hcs
      change closed sequence ctx done last x.1 x.2 = closed sequence' ctx done last x.1 x.2
      by_cases hparen : x.2.head? = some ')'
      · obtain ⟨rest, hrest⟩ : ∃ rest, x.2 = ')' :: rest := List.head?_eq_some_iff.mp hparen
        rw [hrest] at hsuffix ⊢
        exact hsequence _ _ _ rest ((List.suffix_cons ')' rest).trans hsuffix)
      · rw [closed_of_head? hparen, closed_of_head? hparen]
  | part r => exact hsequence _ _ _ cs (List.suffix_refl cs)
  | again min max =>
    cases last with
    | none => rfl
    | some r => exact hsequence _ _ _ cs (List.suffix_refl cs)

theorem others_congr (hchoice : ∀ ctx rest, cs = '|' :: rest → choice ctx rest = choice' ctx rest)
    (x : Regex × Context) : others choice x cs = others choice' x cs := by
  by_cases hbar : cs.head? = some '|'
  · obtain ⟨cs, rfl⟩ : ∃ cs', cs = '|' :: cs' := List.head?_eq_some_iff.mp hbar
    change (choice x.2 cs).map _ = (choice' x.2 cs).map _
    rw [hchoice x.2 cs rfl]
  · rw [others_of_head? hbar, others_of_head? hbar]

theorem local_closed (hsequence : ∀ ctx done last, Shrinks (sequence ctx done last))
    (hlocal : ∀ rest, cs = ')' :: rest →
      ∀ ctx done last, Local UsedUp (sequence ctx done last) rest)
    (ctx : Context) (done : Regex) (last : Option Regex) (x : Regex × Context) :
    Local UsedUp (closed sequence ctx done last x) cs := by
  cases cs with
  | nil => exact .stuck rfl fun u y rest h ↦ hsequence _ _ _ u y rest h
  | cons c cs =>
    by_cases hparen : c = ')'
    · rw [hparen]
      exact .cons (hlocal cs (by rw [hparen]) _ _ _)
    · have hnone : ∀ cs, closed sequence ctx done last x (c :: cs) = none := by
        intro cs
        refine closed_of_head? ?_ ctx done last x
        rwa [List.head?_cons, Ne, Option.some.injEq]
      refine .stuck (hnone cs) fun u y rest h ↦ ?_
      rw [List.cons_append, hnone] at h
      cases h

theorem local_after (hchoice : ∀ ctx, Shrinks (choice ctx))
    (hsequence : ∀ ctx done last, Shrinks (sequence ctx done last))
    (hlocal : ∀ ctx, Local UsedUp (choice ctx) cs)
    (hlocal' : ∀ rest, rest <:+ cs → ∀ ctx done last, Local UsedUp (sequence ctx done last) rest)
    (ctx : Context) (done : Regex) (last : Option Regex) (p : Piece) :
    Local UsedUp (after choice sequence ctx done last p) cs := by
  have hself := hlocal' cs (List.suffix_refl cs)
  cases p with
  | stop => exact (Tame.pure _).isLocal cs
  | directive flags => exact hself _ _ _
  | group inner =>
    refine (hlocal inner).bind_of_usedUp (fun x rest hx ↦ ?_)
      (shrinks_closed hsequence ctx done last) fun _ _ _ ↦ id
    refine local_closed hsequence (fun rest' hrest' ↦ hlocal' rest' ?_) ctx done last x
    have hsuffix := hchoice inner cs x rest hx
    rw [hrest'] at hsuffix
    exact (List.suffix_cons ')' rest').trans hsuffix
  | part r => exact hself _ _ _
  | again min max =>
    cases last with
    | none => exact Tame.fail.isLocal cs
    | some r => exact hself _ _ _

theorem local_others (hlocal : ∀ rest, cs = '|' :: rest → ∀ ctx, Local UsedUp (choice ctx) rest)
    (x : Regex × Context) : Local UsedUp (others choice x) cs := by
  by_cases hbar : cs.head? = some '|'
  · obtain ⟨cs, rfl⟩ : ∃ cs', cs = '|' :: cs' := List.head?_eq_some_iff.mp hbar
    exact .cons ((hlocal cs rfl x.2).map (fun y ↦ (Regex.alt x.1 y.1, y.2)) fun _ _ _ ↦ id)
  · refine .same x cs (others_of_head? hbar x) fun u ↦ others_of_head? ?_ x
    rwa [Ne, head?_append_eq_iff (by decide)]

end Readers

theorem shrinks_atDepth (depth : Nat) : (∀ ctx, Shrinks (choice? depth ctx)) ∧
    ∀ ctx done last, Shrinks (sequence? depth ctx done last) := by
  induction depth with
  | zero => exact ⟨fun _ _ _ _ h ↦ (nomatch h), fun _ _ _ _ _ _ h ↦ (nomatch h)⟩
  | succ depth ih =>
    obtain ⟨hchoice, hsequence⟩ := ih
    refine ⟨fun ctx ↦ ?_, fun ctx done last ↦ ?_⟩
    · rw [funext (choice?_succ depth ctx)]
      exact (hsequence ctx .empty none).bind (shrinks_others hchoice)
    · rw [funext (sequence?_succ depth ctx done last)]
      exact (shrinks_piece? ctx).bind (shrinks_after hchoice hsequence ctx done last)

/-- Depths that suffice for a text are as good as one another. -/
theorem depth_congr (n : Nat) : ∀ cs : List Char, cs.length < n →
    (∀ ctx done last d d', 2 * cs.length + 1 ≤ d → 2 * cs.length + 1 ≤ d' →
      sequence? d ctx done last cs = sequence? d' ctx done last cs) ∧
    ∀ ctx d d', 2 * cs.length + 2 ≤ d → 2 * cs.length + 2 ≤ d' →
      choice? d ctx cs = choice? d' ctx cs := by
  induction n with
  | zero => exact fun cs h ↦ absurd h (Nat.not_lt_zero _)
  | succ n ih =>
    -- What follows a piece is shorter, unless the sequence ends.
    have hsequence : ∀ cs : List Char, cs.length < n + 1 → ∀ ctx done last d d',
        2 * cs.length + 1 ≤ d → 2 * cs.length + 1 ≤ d' →
          sequence? d ctx done last cs = sequence? d' ctx done last cs := by
      intro cs hn ctx done last d d' hd hd'
      obtain ⟨e, rfl⟩ : ∃ e, d = e + 1 := ⟨d - 1, by omega⟩
      obtain ⟨e', rfl⟩ : ∃ e', d' = e' + 1 := ⟨d' - 1, by omega⟩
      rw [sequence?_succ, sequence?_succ]
      cases hpiece : piece? ctx cs with
      | none => rfl
      | some x =>
        obtain ⟨p, rest⟩ := x
        by_cases hp : p = .stop
        · rw [hp]
          rfl
        have hlt := length_lt_of_piece? hpiece hp
        have hchoice := fun ctx ↦ (ih rest (by omega)).2 ctx e e' (by omega) (by omega)
        refine after_congr (shrinks_atDepth e).1 hchoice (fun ctx done last rest' h ↦ ?_) ..
        have hle := h.length_le
        exact (ih rest' (by omega)).1 ctx done last e e' (by omega) (by omega)
    refine fun cs hn ↦ ⟨hsequence cs hn, fun ctx d d' hd hd' ↦ ?_⟩
    obtain ⟨e, rfl⟩ : ∃ e, d = e + 1 := ⟨d - 1, by omega⟩
    obtain ⟨e', rfl⟩ : ∃ e', d' = e' + 1 := ⟨d' - 1, by omega⟩
    rw [choice?_succ, choice?_succ, hsequence cs hn ctx .empty none e e' (by omega) (by omega)]
    cases hcs : sequence? e' ctx .empty none cs with
    | none => rfl
    | some x =>
      refine others_congr (fun ctx rest hrest ↦ ?_) x.1
      have hle := ((shrinks_atDepth e').2 _ _ _ cs x.1 x.2 hcs).length_le
      have hlength := congrArg List.length hrest
      rw [List.length_cons] at hlength
      exact (ih rest (by omega)).2 ctx e e' (by omega) (by omega)

/-- A choice, at a depth that suffices. -/
def readChoice? (ctx : Context) : Reader (Regex × Context) := fun cs ↦ choice? (depthFor cs) ctx cs

/-- The rest of a sequence, at a depth that suffices. -/
def readSequence? : Rest := fun ctx done last cs ↦ sequence? (2 * cs.length + 1) ctx done last cs

theorem shrinks_readChoice? (ctx : Context) : Shrinks (readChoice? ctx) := fun cs x rest h ↦
  (shrinks_atDepth _).1 ctx cs x rest h

theorem shrinks_readSequence? (ctx : Context) (done : Regex) (last : Option Regex) :
    Shrinks (readSequence? ctx done last) := fun cs x rest h ↦
  (shrinks_atDepth _).2 ctx done last cs x rest h

theorem readChoice?_eq (ctx : Context) (cs : List Char) :
    readChoice? ctx cs = (readSequence? ctx .empty none cs).bind fun x ↦
      others readChoice? x.1 x.2 := by
  rw [readChoice?, depthFor, choice?_succ, readSequence?]
  cases hcs : sequence? (2 * cs.length + 1) ctx .empty none cs with
  | none => rfl
  | some x =>
    refine others_congr (fun ctx rest hrest ↦ ?_) x.1
    have hle := ((shrinks_atDepth _).2 _ _ _ cs x.1 x.2 hcs).length_le
    have hlength := congrArg List.length hrest
    rw [List.length_cons] at hlength
    exact (depth_congr _ rest (Nat.lt_succ_self _)).2 ctx _ _ (by omega) le_rfl

theorem readSequence?_eq (ctx : Context) (done : Regex) (last : Option Regex) (cs : List Char) :
    readSequence? ctx done last cs = (piece? ctx cs).bind fun x ↦
      after readChoice? readSequence? ctx done last x.1 x.2 := by
  rw [readSequence?, sequence?_succ]
  cases hpiece : piece? ctx cs with
  | none => rfl
  | some x =>
    obtain ⟨p, rest⟩ := x
    by_cases hp : p = .stop
    · rw [hp]
      rfl
    have hlt := length_lt_of_piece? hpiece hp
    refine after_congr (shrinks_atDepth _).1 (fun ctx ↦ ?_) (fun ctx done last rest' h ↦ ?_) ..
    · exact (depth_congr _ rest (Nat.lt_succ_self _)).2 ctx _ _ (by omega) le_rfl
    · have hle : rest'.length ≤ rest.length := h.length_le
      exact (depth_congr _ rest' (Nat.lt_succ_self _)).1 _ _ _ _ _ (by omega) le_rfl

/-! ## Whole expressions -/

/-- Where a reader of pieces leaves a brace, nothing that follows the piece leaves the
parenthesis. -/
theorem suffix_of_after {ctx : Context} {done : Regex} {last : Option Regex} {p : Piece}
    {u rest rest' : List Char} {x : Regex × Context} (hrest : LeavesPart ctx.flags u p rest)
    (h : after readChoice? readSequence? ctx done last p rest = some (x, rest')) : rest' <:+ u := by
  have hshrinks := shrinks_after shrinks_readChoice? shrinks_readSequence?
  rcases hrest with hrest | ⟨⟨r, rfl⟩, layout, hlayout, rfl⟩
  · exact (hshrinks ctx done last p rest x rest' h).trans hrest
  · -- What comes next is the brace, and its count goes on beyond the parenthesis.
    replace h : readSequence? ctx (append done last) (some r) _ = some (x, rest') := h
    rw [readSequence?_eq] at h
    obtain ⟨⟨q, rest⟩, hq, hx⟩ := Option.bind_eq_some_iff.mp h
    exact (hshrinks _ _ _ q rest x rest' hx).trans (suffix_of_piece?_brace hlayout hq)

theorem local_atLength (n : Nat) : ∀ cs : List Char, cs.length < n →
    (∀ ctx done last, Local UsedUp (readSequence? ctx done last) cs) ∧
      ∀ ctx, Local UsedUp (readChoice? ctx) cs := by
  induction n with
  | zero => exact fun cs h ↦ absurd h (Nat.not_lt_zero _)
  | succ n ih =>
    have hsequence : ∀ cs : List Char, cs.length < n + 1 →
        ∀ ctx done last, Local UsedUp (readSequence? ctx done last) cs := by
      intro cs hn ctx done last
      rw [funext (readSequence?_eq ctx done last)]
      refine (local_piece? ctx cs).bind (fun p rest hpiece ↦ ?_)
        (shrinks_after shrinks_readChoice? shrinks_readSequence? ctx done last) (fun _ _ _ ↦ id)
        fun u p rest x rest' ↦ suffix_of_after
      by_cases hp : p = .stop
      · rw [hp]
        exact (Tame.pure _).isLocal rest
      have hlt := length_lt_of_piece? hpiece hp
      refine local_after shrinks_readChoice? shrinks_readSequence? (ih rest (by omega)).2
        (fun rest' h ↦ ?_) ctx done last p
      have hle := h.length_le
      exact (ih rest' (by omega)).1
    refine fun cs hn ↦ ⟨hsequence cs hn, fun ctx ↦ ?_⟩
    rw [funext (readChoice?_eq ctx)]
    refine (hsequence cs hn ctx .empty none).bind_of_usedUp (fun x rest hx ↦ ?_)
      (shrinks_others shrinks_readChoice?) fun _ _ _ ↦ id
    refine local_others (fun rest' hrest' ctx ↦ ?_) x
    have hle := (shrinks_readSequence? _ _ _ cs x rest hx).length_le
    have hlength := congrArg List.length hrest'
    rw [List.length_cons] at hlength
    exact (ih rest' (by omega)).2 ctx

/-- **What stands before a closing parenthesis is read as it is alone**, unless it ends in a
comment. -/
theorem local_readChoice? (ctx : Context) (cs : List Char) : Local UsedUp (readChoice? ctx) cs :=
  (local_atLength _ cs (Nat.lt_succ_self _)).2 ctx

end TagQuery.Regex.Parser
