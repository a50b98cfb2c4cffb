import TagQuery.Proofs.Regex.Parser

/-!
# Joining expressions by bars

An expression may be followed by a bar and another expression. Where it ends before a closing
parenthesis, it ends before the bar too, and what follows the bar is a further choice
(`exists_join_of_readChoice?`). Two things carry over the bar, though: the flags that have been set,
and the names of groups, which must not be given again.

## Bars

A sequence that leaves a closing parenthesis might as well leave a bar
(`indifferent_readSequence?`). A choice might not, for it takes the bar and goes on. Within a group
it has to end at the parenthesis of the group, however, and what is left then starts with that; so
for choices it is enough to know about what is left together with something before it
(`IndifferentWithin`).

## Names

Reading with further names is like reading without them, as long as none is met again
(`readChoice?_besides`). This is proved for all depths at once. If a name is met again, the reading
fails there, and the reading without the further names ends with a name that is one of them, because
names are never forgotten (`Grows`).
-/

namespace TagQuery.Regex

namespace Parser

/-! ## Bars in the place of parentheses -/

/-- A closing parenthesis that a reader leaves together with something before it might as well be a
bar. -/
def IndifferentWithin {α : Type} (F : Reader α) : Prop :=
  ∀ x c y u a, F (x ++ ')' :: u) = some (a, (c :: y) ++ ')' :: u) →
    F (x ++ '|' :: u) = some (a, (c :: y) ++ '|' :: u)

section Readers

variable {choice : Context → Reader (Regex × Context)} {sequence : Rest}

/-- The inside of a group ends with the group's own parenthesis. -/
theorem indifferent_group {inner : Context} (hchoice : IndifferentWithin (choice inner))
    (hsequence : ∀ ctx done last, Indifferent (sequence ctx done last))
    (hshrinks : ∀ ctx done last, Shrinks (sequence ctx done last)) (ctx : Context) (done : Regex)
    (last : Option Regex) :
    Indifferent fun cs ↦ (choice inner cs).bind fun x ↦ closed sequence ctx done last x.1 x.2 := by
  intro x y u b h
  obtain ⟨⟨a, rest⟩, ha, hb⟩ := Option.bind_eq_some_iff.mp h
  by_cases hparen : rest.head? = some ')'
  · obtain ⟨rest, rfl⟩ : ∃ rest', rest = ')' :: rest' := List.head?_eq_some_iff.mp hparen
    replace hb : sequence _ _ _ rest = some (b, y ++ ')' :: u) := hb
    obtain ⟨z, rfl⟩ := hshrinks _ _ _ rest b _ hb
    rw [← List.append_assoc] at ha hb
    change (choice inner (x ++ '|' :: u)).bind _ = _
    rw [hchoice x ')' (z ++ y) u a ha]
    exact hsequence _ _ _ (z ++ y) y u b hb
  · replace hb : closed sequence ctx done last a rest = some (b, y ++ ')' :: u) := hb
    rw [closed_of_head? hparen] at hb
    cases hb

theorem indifferent_after (hchoice : ∀ ctx, IndifferentWithin (choice ctx))
    (hsequence : ∀ ctx done last, Indifferent (sequence ctx done last))
    (hshrinks : ∀ ctx done last, Shrinks (sequence ctx done last)) (ctx : Context) (done : Regex)
    (last : Option Regex) (p : Piece) : Indifferent (after choice sequence ctx done last p) := by
  cases p with
  | stop => exact (Tame.pure _).indifferent
  | directive flags => exact hsequence _ _ _
  | group inner => exact indifferent_group (hchoice inner) hsequence hshrinks ctx done last
  | part r => exact hsequence _ _ _
  | again min max =>
    cases last with
    | none => exact Tame.fail.indifferent
    | some r => exact hsequence _ _ _

theorem indifferentWithin_others (hchoice : ∀ ctx, IndifferentWithin (choice ctx))
    (x : Regex × Context) : IndifferentWithin (others choice x) := by
  intro cs c y u b h
  cases cs with
  | nil =>
    rw [List.nil_append, others_of_head? (by simp)] at h
    obtain ⟨-, hleft⟩ := Prod.mk.inj (Option.some.inj h)
    have hlength := congrArg List.length hleft
    simp only [List.length_cons, List.length_append] at hlength
    omega
  | cons d cs =>
    by_cases hbar : d = '|'
    · rw [hbar] at h ⊢
      obtain ⟨⟨a, rest⟩, ha, he⟩ := Option.map_eq_some_iff.mp h
      cases he
      change (choice x.2 (cs ++ '|' :: u)).map _ = _
      rw [hchoice x.2 cs c y u a ha]
      rfl
    · rw [others_of_head? (by simpa using hbar)] at h ⊢
      exact (Tame.pure x).indifferent (d :: cs) (c :: y) u b h

end Readers

theorem indifferent_atDepth (depth : Nat) : (∀ ctx, IndifferentWithin (choice? depth ctx)) ∧
    ∀ ctx done last, Indifferent (sequence? depth ctx done last) := by
  induction depth with
  | zero => exact ⟨fun _ _ _ _ _ _ h ↦ (nomatch h), fun _ _ _ ↦ Tame.fail.indifferent⟩
  | succ depth ih =>
    obtain ⟨hchoice, hsequence⟩ := ih
    obtain ⟨hshrinks, hshrinks'⟩ := shrinks_atDepth depth
    refine ⟨fun ctx x c y u b h ↦ ?_, fun ctx done last ↦ ?_⟩
    · rw [choice?_succ] at h ⊢
      obtain ⟨⟨a, rest⟩, ha, hb⟩ := Option.bind_eq_some_iff.mp h
      obtain ⟨z, rfl⟩ := shrinks_others hshrinks a rest b _ hb
      rw [← List.append_assoc] at ha hb
      rw [hsequence ctx .empty none x _ u a ha]
      exact indifferentWithin_others hchoice a _ c y u b hb
    · rw [funext (sequence?_succ depth ctx done last)]
      exact (indifferent_piece? ctx).bind
        (indifferent_after hchoice hsequence hshrinks' ctx done last)
        (shrinks_after hshrinks hshrinks' ctx done last)

/-- **What a sequence leaves before a closing parenthesis is the same before a bar.** -/
theorem indifferent_readSequence? (ctx : Context) (done : Regex) (last : Option Regex) :
    Indifferent (readSequence? ctx done last) := by
  intro x y u a h
  have hlength : (x ++ '|' :: u).length = (x ++ ')' :: u).length := by
    simp only [List.length_append, List.length_cons]
  rw [readSequence?, hlength]
  exact (indifferent_atDepth _).2 ctx done last x y u a h

end Parser

/-! ## Names -/

namespace Context

/-- None of the names of a context is among those given. -/
def IsFresh (ctx : Context) (names : List String) : Prop := ∀ name ∈ ctx.names, name ∉ names

instance (ctx : Context) (names : List String) : Decidable (ctx.IsFresh names) :=
  inferInstanceAs (Decidable (∀ name ∈ ctx.names, name ∉ names))

/-- A context with names besides its own. -/
def besides (ctx : Context) (names : List String) : Context :=
  { ctx with names := ctx.names ++ names }

/-- A context with names besides its own, unless it has one of them already. -/
def besides? (names : List String) (ctx : Context) : Option Context :=
  if ctx.IsFresh names then some (ctx.besides names) else none

variable {ctx ctx' : Context} {names : List String}

theorem besides?_of_isFresh (h : ctx.IsFresh names) :
    ctx.besides? names = some (ctx.besides names) :=
  if_pos h

theorem besides?_eq_none_iff : ctx.besides? names = none ↔ ¬ctx.IsFresh names := by
  rw [besides?, ite_eq_right_iff]
  simp

end Context

namespace Parser

variable {ctx : Context} {names : List String}

/-- A piece as it is read with further names. Only the opening of a group can have names. -/
def Piece.besides? (names : List String) : Piece → Option Piece
  | .group inner => (inner.besides? names).map .group
  | p => some p

theorem make_group_besides (h : ctx.IsFresh names) (rest : List Char) :
    Reader.make (some (.group ctx, rest)) (Piece.besides? names)
      = some (.group (ctx.besides names), rest) := by
  change ((ctx.besides? names).map _).map _ = _
  rw [Context.besides?_of_isFresh h]
  rfl

theorem named?_besides (h : ctx.IsFresh names) (cs : List Char) :
    named? (ctx.besides names) cs = Reader.make (named? ctx cs) (Piece.besides? names) := by
  unfold named?
  dsimp only
  cases cs.dropWhile (· != '>') with
  | nil => rfl
  | cons c rest =>
    dsimp only
    generalize cs.takeWhile (· != '>') = name
    have hcontains : (ctx.besides names).names.contains (.ofList name) =
        (ctx.names.contains (.ofList name) || names.contains (.ofList name)) := by
      simp [Context.besides]
    rw [hcontains, Bool.not_or, ← Bool.and_assoc]
    by_cases hname : (isName name && !ctx.names.contains (.ofList name)) = true
    · rw [hname, Bool.true_and, if_pos rfl]
      by_cases hmem : String.ofList name ∈ names
      · rw [if_neg (by simpa using hmem)]
        have hstale : ¬Context.IsFresh ⟨ctx.flags, .ofList name :: ctx.names⟩ names :=
          fun hfresh ↦ hfresh _ List.mem_cons_self hmem
        change none = ((Context.besides? names _).map _).map _
        rw [Context.besides?_eq_none_iff.mpr hstale]
        rfl
      · have hfresh : Context.IsFresh ⟨ctx.flags, .ofList name :: ctx.names⟩ names :=
          List.forall_mem_cons.mpr ⟨hmem, h⟩
        rw [if_pos (by simpa using hmem), make_group_besides hfresh]
        rfl
    · rw [Bool.eq_false_iff.mpr hname, Bool.false_and]
      rfl

theorem flagged?_besides (h : ctx.IsFresh names) (cs : List Char) :
    flagged? (ctx.besides names) cs = Reader.make (flagged? ctx cs) (Piece.besides? names) := by
  have hfresh : ∀ flags, Context.IsFresh ⟨flags, ctx.names⟩ names := fun _ ↦ h
  unfold flagged?
  dsimp only
  split
  · split
    · exact (make_group_besides (hfresh _) _).symm
    · split <;> rfl
    · rfl
  · rfl

theorem opening?_besides (h : ctx.IsFresh names) (cs : List Char) :
    opening? (ctx.besides names) cs = Reader.make (opening? ctx cs) (Piece.besides? names) := by
  unfold opening?
  split
  · exact named?_besides h _
  · exact named?_besides h _
  · exact flagged?_besides h _
  · exact (make_group_besides h _).symm

/-- All but an opening parenthesis begins what does not depend on the names so far, and opens no
group. -/
theorem pieceFrom?_of_ne {c : Char} (hc : c ≠ '(') (ctx : Context) (names : List String)
    (cs : List Char) :
    pieceFrom? { ctx with names } c cs = pieceFrom? ctx c cs ∧
      ∀ inner rest, pieceFrom? ctx c cs ≠ some (.group inner, rest) := by
  unfold pieceFrom?
  dsimp only
  split
  case h_3 => exact absurd rfl hc
  case h_4 | h_8 | h_9 | h_10 =>
    refine ⟨rfl, fun inner rest h ↦ ?_⟩
    obtain ⟨x, -, he⟩ := Option.map_eq_some_iff.mp h
    cases he
  all_goals exact ⟨rfl, fun inner rest h ↦ by cases h⟩

theorem pieceHere?_besides (h : ctx.IsFresh names) (cs : List Char) :
    pieceHere? (ctx.besides names) cs
      = Reader.make (pieceHere? ctx cs) (Piece.besides? names) := by
  cases cs with
  | nil => rfl
  | cons c rest =>
    by_cases hc : c = '('
    · rw [hc]
      exact opening?_besides h _
    · obtain ⟨heq, hgroup⟩ := pieceFrom?_of_ne hc ctx (ctx.names ++ names) rest
      rw [pieceHere?, pieceHere?]
      refine heq.trans ?_
      cases hpiece : pieceFrom? ctx c rest with
      | none => rfl
      | some x =>
        obtain ⟨p, rest'⟩ := x
        cases p with
        | group inner => exact absurd hpiece (hgroup inner rest')
        | _ => rfl

theorem piece?_besides (h : ctx.IsFresh names) (cs : List Char) :
    piece? (ctx.besides names) cs = Reader.make (piece? ctx cs) (Piece.besides? names) := by
  rw [piece?_eq, piece?_eq]
  exact pieceHere?_besides h _

/-! ## Names are not forgotten -/

/-- The names of the groups that are read are added to those given. -/
def Grows (names : List String) (F : Reader (Regex × Context)) : Prop :=
  ∀ cs x rest, F cs = some (x, rest) → names ⊆ x.2.names

theorem subset_of_named? {inner : Context} {cs rest : List Char}
    (h : named? ctx cs = some (.group inner, rest)) : ctx.names ⊆ inner.names := by
  unfold named? at h
  dsimp only at h
  split at h
  · split at h
    · cases h
      exact List.subset_cons_self _ _
    · cases h
  · cases h

theorem subset_of_flagged? {inner : Context} {cs rest : List Char}
    (h : flagged? ctx cs = some (.group inner, rest)) : ctx.names ⊆ inner.names := by
  unfold flagged? at h
  dsimp only at h
  split at h
  · split at h
    · cases h
      exact List.Subset.refl _
    · split at h <;> cases h
    · cases h
  · cases h

theorem subset_of_piece? {inner : Context} {cs rest : List Char}
    (h : piece? ctx cs = some (.group inner, rest)) : ctx.names ⊆ inner.names := by
  unfold piece? at h
  split at h
  · cases h
  · next c rest' _ =>
    by_cases hc : c = '('
    · rw [hc] at h
      replace h : opening? ctx (ctx.flags.skip rest') = some (.group inner, rest) := h
      unfold opening? at h
      split at h
      · exact subset_of_named? h
      · exact subset_of_named? h
      · exact subset_of_flagged? h
      · cases h
        exact List.Subset.refl _
    · exact absurd h ((pieceFrom?_of_ne hc ctx ctx.names rest').2 inner rest)

section Readers

variable {choice : Context → Reader (Regex × Context)} {sequence : Rest}

theorem grows_closed (hsequence : ∀ ctx done last, Grows ctx.names (sequence ctx done last))
    (ctx : Context) (done : Regex) (last : Option Regex) (x : Regex × Context) :
    Grows x.2.names (closed sequence ctx done last x) := by
  intro cs y rest h
  by_cases hparen : cs.head? = some ')'
  · obtain ⟨cs, rfl⟩ : ∃ cs', cs = ')' :: cs' := List.head?_eq_some_iff.mp hparen
    exact hsequence { ctx with names := x.2.names } _ _ cs y rest h
  · rw [closed_of_head? hparen] at h
    cases h

theorem grows_group (hchoice : ∀ ctx, Grows ctx.names (choice ctx))
    (hsequence : ∀ ctx done last, Grows ctx.names (sequence ctx done last)) (ctx inner : Context)
    (done : Regex) (last : Option Regex) :
    Grows inner.names (after choice sequence ctx done last (.group inner)) := by
  intro cs y rest h
  obtain ⟨⟨x, rest'⟩, hx, hy⟩ := Option.bind_eq_some_iff.mp h
  have hsub := hchoice inner cs x rest' hx
  exact List.Subset.trans hsub (grows_closed hsequence ctx done last x rest' y rest hy)

theorem grows_others (hchoice : ∀ ctx, Grows ctx.names (choice ctx)) (x : Regex × Context) :
    Grows x.2.names (others choice x) := by
  intro cs y rest h
  by_cases hbar : cs.head? = some '|'
  · obtain ⟨cs, rfl⟩ : ∃ cs', cs = '|' :: cs' := List.head?_eq_some_iff.mp hbar
    obtain ⟨⟨z, rest'⟩, hz, he⟩ := Option.map_eq_some_iff.mp h
    cases he
    exact hchoice x.2 cs z rest' hz
  · rw [others_of_head? hbar] at h
    cases h
    exact List.Subset.refl _

end Readers

theorem grows_atDepth (depth : Nat) : (∀ ctx, Grows ctx.names (choice? depth ctx)) ∧
    ∀ ctx done last, Grows ctx.names (sequence? depth ctx done last) := by
  induction depth with
  | zero => exact ⟨fun _ _ _ _ h ↦ (nomatch h), fun _ _ _ _ _ _ h ↦ (nomatch h)⟩
  | succ depth ih =>
    obtain ⟨hchoice, hsequence⟩ := ih
    refine ⟨fun ctx cs y rest h ↦ ?_, fun ctx done last cs y rest h ↦ ?_⟩
    · rw [choice?_succ] at h
      obtain ⟨⟨x, rest'⟩, hx, hy⟩ := Option.bind_eq_some_iff.mp h
      have hsub := hsequence ctx _ _ cs x rest' hx
      exact List.Subset.trans hsub (grows_others hchoice x rest' y rest hy)
    · rw [sequence?_succ] at h
      obtain ⟨⟨p, rest'⟩, hp, hy⟩ := Option.bind_eq_some_iff.mp h
      cases p with
      | stop =>
        cases hy
        exact List.Subset.refl _
      | directive flags => exact hsequence { ctx with flags } _ _ rest' y rest hy
      | group inner =>
        have hsub := subset_of_piece? hp
        exact List.Subset.trans hsub (grows_group hchoice hsequence ctx inner done last rest' y rest hy)
      | part r => exact hsequence ctx _ _ rest' y rest hy
      | again min max =>
        obtain ⟨r, -, hy⟩ := Option.bind_eq_some_iff.mp hy
        exact hsequence ctx _ _ rest' y rest hy

/-! ## Names besides those of an expression -/

/-- What was read together with the names of its groups, and with names besides. -/
def readBesides? (names : List String) (x : Regex × Context) : Option (Regex × Context) :=
  (x.2.besides? names).map (x.1, ·)

/-- If one of the names is among those that were there at first, it stays so. -/
theorem Grows.make_eq_none {F : Reader (Regex × Context)} (hF : Grows ctx.names F)
    (h : ¬ctx.IsFresh names) (cs : List Char) : Reader.make (F cs) (readBesides? names) = none := by
  cases hcs : F cs with
  | none => rfl
  | some x =>
    obtain ⟨x, rest⟩ := x
    have hstale : ¬x.2.IsFresh names := fun hfresh ↦ h fun n hn ↦ hfresh n (hF cs x rest hcs hn)
    change ((x.2.besides? names).map _).map _ = none
    rw [Context.besides?_eq_none_iff.mpr hstale]
    rfl

theorem make_readBesides (h : ctx.IsFresh names) (r : Regex) (rest : List Char) :
    Reader.make (some ((r, ctx), rest)) (readBesides? names)
      = some ((r, ctx.besides names), rest) := by
  change ((ctx.besides? names).map _).map _ = _
  rw [Context.besides?_of_isFresh h]
  rfl

section Readers

variable {choice : Context → Reader (Regex × Context)} {sequence : Rest}

theorem closed_besides
    (hsequence : ∀ ctx done last cs, ctx.IsFresh names → sequence (ctx.besides names) done last cs
      = Reader.make (sequence ctx done last cs) (readBesides? names))
    (ctx : Context) (done : Regex) (last : Option Regex) {x : Regex × Context}
    (h : x.2.IsFresh names) (cs : List Char) :
    closed sequence (ctx.besides names) done last (x.1, x.2.besides names) cs
      = Reader.make (closed sequence ctx done last x cs) (readBesides? names) := by
  by_cases hparen : cs.head? = some ')'
  · obtain ⟨cs, rfl⟩ : ∃ cs', cs = ')' :: cs' := List.head?_eq_some_iff.mp hparen
    exact hsequence { ctx with names := x.2.names } _ _ cs h
  · rw [closed_of_head? hparen, closed_of_head? hparen]
    rfl

theorem group_besides (hgrows : ∀ ctx done last, Grows ctx.names (sequence ctx done last))
    (hchoice : ∀ ctx cs, ctx.IsFresh names → choice (ctx.besides names) cs
      = Reader.make (choice ctx cs) (readBesides? names))
    (hsequence : ∀ ctx done last cs, ctx.IsFresh names → sequence (ctx.besides names) done last cs
      = Reader.make (sequence ctx done last cs) (readBesides? names))
    (ctx : Context) (done : Regex) (last : Option Regex) {inner : Context}
    (h : inner.IsFresh names) (cs : List Char) :
    after choice sequence (ctx.besides names) done last (.group (inner.besides names)) cs
      = Reader.make (after choice sequence ctx done last (.group inner) cs)
        (readBesides? names) := by
  change (choice (inner.besides names) cs).bind _ = Reader.make ((choice inner cs).bind _) _
  rw [hchoice inner cs h]
  cases choice inner cs with
  | none => rfl
  | some x =>
    obtain ⟨⟨r, inner'⟩, rest⟩ := x
    by_cases hfresh : inner'.IsFresh names
    · rw [make_readBesides hfresh]
      exact closed_besides hsequence ctx done last (x := (r, inner')) hfresh rest
    · have hnone := (grows_closed hgrows ctx done last (r, inner')).make_eq_none hfresh rest
      refine Eq.trans ?_ hnone.symm
      change (((inner'.besides? names).map _).map _).bind _ = none
      rw [Context.besides?_eq_none_iff.mpr hfresh]
      rfl

theorem others_besides (hchoice : ∀ ctx cs, ctx.IsFresh names → choice (ctx.besides names) cs
      = Reader.make (choice ctx cs) (readBesides? names))
    {x : Regex × Context} (h : x.2.IsFresh names) (cs : List Char) :
    others choice (x.1, x.2.besides names) cs
      = Reader.make (others choice x cs) (readBesides? names) := by
  by_cases hbar : cs.head? = some '|'
  · obtain ⟨cs, rfl⟩ : ∃ cs', cs = '|' :: cs' := List.head?_eq_some_iff.mp hbar
    change (choice (x.2.besides names) cs).map _ = Reader.make ((choice x.2 cs).map _) _
    rw [hchoice x.2 cs h]
    cases choice x.2 cs with
    | none => rfl
    | some y =>
      change (((y.1.2.besides? names).map _).map _).map _ = ((y.1.2.besides? names).map _).map _
      cases y.1.2.besides? names <;> rfl
  · rw [others_of_head? hbar, others_of_head? hbar, make_readBesides h]

end Readers

theorem besides_atDepth (names : List String) (depth : Nat) :
    (∀ ctx cs, ctx.IsFresh names → choice? depth (ctx.besides names) cs
      = Reader.make (choice? depth ctx cs) (readBesides? names)) ∧
    ∀ ctx done last cs, ctx.IsFresh names → sequence? depth (ctx.besides names) done last cs
      = Reader.make (sequence? depth ctx done last cs) (readBesides? names) := by
  induction depth with
  | zero => exact ⟨fun _ _ _ ↦ rfl, fun _ _ _ _ _ ↦ rfl⟩
  | succ depth ih =>
    obtain ⟨hchoice, hsequence⟩ := ih
    obtain ⟨hgrows, hgrows'⟩ := grows_atDepth depth
    refine ⟨fun ctx cs h ↦ ?_, fun ctx done last cs h ↦ ?_⟩
    · rw [choice?_succ, choice?_succ, hsequence ctx .empty none cs h]
      cases sequence? depth ctx .empty none cs with
      | none => rfl
      | some x =>
        obtain ⟨⟨r, ctx'⟩, rest⟩ := x
        by_cases hfresh : ctx'.IsFresh names
        · rw [make_readBesides hfresh]
          exact others_besides hchoice (x := (r, ctx')) hfresh rest
        · have hnone := (grows_others hgrows (r, ctx')).make_eq_none hfresh rest
          refine Eq.trans ?_ hnone.symm
          change (((ctx'.besides? names).map _).map _).bind _ = none
          rw [Context.besides?_eq_none_iff.mpr hfresh]
          rfl
    · rw [sequence?_succ, sequence?_succ, piece?_besides h]
      cases piece? ctx cs with
      | none => rfl
      | some x =>
        obtain ⟨p, rest⟩ := x
        cases p with
        | stop => exact (make_readBesides h _ rest).symm
        | directive flags => exact hsequence { ctx with flags } _ _ rest h
        | group inner =>
          by_cases hfresh : inner.IsFresh names
          · rw [make_group_besides hfresh]
            exact group_besides hgrows' hchoice hsequence ctx done last hfresh rest
          · have hnone := (grows_group hgrows hgrows' ctx inner done last).make_eq_none hfresh rest
            refine Eq.trans ?_ hnone.symm
            change (((inner.besides? names).map _).map _).bind _ = none
            rw [Context.besides?_eq_none_iff.mpr hfresh]
            rfl
        | part r => exact hsequence ctx _ _ rest h
        | again min max =>
          cases last with
          | none => rfl
          | some r => exact hsequence ctx _ _ rest h

/-- **Names besides those of an expression** change nothing as long as they are others, and are a
fault if they are not. -/
theorem readChoice?_besides (h : ctx.IsFresh names) (cs : List Char) :
    readChoice? (ctx.besides names) cs
      = Reader.make (readChoice? ctx cs) (readBesides? names) :=
  (besides_atDepth names _).1 ctx cs h

/-! ## Joining -/

/-- **An expression that ends before a parenthesis can be joined with another one** by a bar. The
other one is read with the flags and names that the first one leaves, and the whole denotes what
either denotes. -/
theorem exists_join_of_readChoice? {ctx ctx' : Context} {r : Regex} {x u : List Char}
    (h : readChoice? ctx (x ++ ')' :: u) = some ((r, ctx'), ')' :: u)) :
    ∃ join : Regex → Regex,
      (∀ s text, (join s).Denotes text ↔ r.Denotes text ∨ s.Denotes text) ∧
      readChoice? ctx (x ++ '|' :: u)
        = (readChoice? ctx' u).map fun y ↦ ((join y.1.1, y.1.2), y.2) := by
  induction hn : x.length using Nat.strong_induction_on generalizing x ctx r with
  | h n ih =>
    subst hn
    rw [readChoice?_eq] at h ⊢
    obtain ⟨⟨y, rest⟩, hy, hrest⟩ := Option.bind_eq_some_iff.mp h
    obtain ⟨z, rfl⟩ := shrinks_others shrinks_readChoice? y rest _ _ hrest
    rw [indifferent_readSequence? ctx .empty none x z u y hy]
    cases z with
    | nil =>
      -- This is the last sequence, and the other expression comes after it.
      replace hrest : others readChoice? y (')' :: u) = some ((r, ctx'), ')' :: u) := hrest
      rw [others_of_head? (by simp)] at hrest
      cases hrest
      exact ⟨.alt r, fun _ _ ↦ Iff.rfl, rfl⟩
    | cons c z =>
      by_cases hbar : c = '|'
      · subst hbar
        obtain ⟨⟨⟨s, ctx''⟩, rest'⟩, hs, he⟩ := Option.map_eq_some_iff.mp hrest
        cases he
        have hlt : z.length < x.length := by
          have hle := (shrinks_readSequence? ctx .empty none _ _ _ hy).length_le
          simp only [List.length_append, List.length_cons] at hle
          omega
        obtain ⟨join, hjoin, hread⟩ := ih z.length hlt hs rfl
        refine ⟨fun t ↦ .alt y.1 (join t), fun t text ↦ ?_, ?_⟩
        · refine Iff.trans (or_congr_right (hjoin t text)) ?_
          exact or_assoc.symm
        · change (readChoice? y.2 (z ++ '|' :: u)).map _ = _
          rw [hread, Option.map_map]
          rfl
      · replace hrest : others readChoice? y (c :: (z ++ ')' :: u)) = some ((r, ctx'), ')' :: u) :=
          hrest
        rw [others_of_head? (by simpa using hbar)] at hrest
        have hlength := congrArg (·.2.length) (Option.some.inj hrest)
        simp only [List.length_append, List.length_cons] at hlength
        omega

end Parser

end TagQuery.Regex
