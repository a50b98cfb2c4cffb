import TagQuery.Proofs.Regex.Escape
import TagQuery.Regex.Bracket

/-!
# Reading classes in brackets

A class ends with a bracket, never with the text, so the reader of classes is tame (`tame_read?`):
within brackets a closing parenthesis is a character like any other.

That is not so for the items of a class. After a character the end of the text is a fault, and the
closing parenthesis is just what comes next; so the reader of items leaves the parenthesis where it
is stuck at the end (`LeavesParen`). It is used up as soon as the next item is read.

## The depth

The count that bounds the recursion does not matter once it is large enough (`depth_congr`). What
is proved about classes is therefore proved about `read?`, by induction on the length of the text.
-/

namespace TagQuery.Regex.Bracket

open Primitive

/-! ## Items -/

theorem tame_primitive? (f : Flags) : Tame (primitive? f) := by
  refine .cons rfl fun c ↦ ?_
  by_cases hc : c = '\\'
  · rw [hc]
    exact tame_makeEscape? f fun _ ↦ rfl
  · have hchar : (fun cs ↦ primitive? f (c :: cs)) = fun cs ↦ some (.character c, cs) := by
      funext cs
      unfold primitive?
      split
      · cases ‹_›
      · exact absurd (List.cons.inj ‹_›).1 hc
      · cases ‹_›
        rfl
    rw [hchar]
    exact .pure _

theorem takes_primitive? (f : Flags) : Takes (primitive? f) := by
  refine .cons rfl fun c cs p rest h ↦ ?_
  unfold primitive? at h
  split at h
  · cases ‹_ = []›
  · obtain ⟨rfl, rfl⟩ := List.cons.inj ‹_ = _›
    exact (tame_makeEscape? f (g := notLook?) fun _ ↦ rfl).shrinks _ p rest h
  · obtain ⟨rfl, rfl⟩ := List.cons.inj ‹c :: cs = _›
    cases h
    exact List.suffix_refl _

section Stop

variable {stop : Char} (hstop : IsStop stop)

include hstop

theorem trimStart_append (cs u : List Char) :
    Text.trimStart (cs ++ stop :: u) = Text.trimStart cs ++ stop :: u := by
  induction cs with
  | nil => cases hstop <;> rfl
  | cons c cs ih =>
    rw [Text.trimStart, Text.trimStart, List.cons_append, List.dropWhile_cons, List.dropWhile_cons]
    split
    · exact ih
    · rfl

/-- What decides about a hyphen is the same before a closing parenthesis or a bar, as long as that
does not decide itself. -/
theorem afterHyphen?_append (f : Flags) {c : Char} (hc : c ≠ stop) (cs u : List Char) :
    afterHyphen? f (cs ++ stop :: u) = some c ↔ afterHyphen? f cs = some c := by
  unfold afterHyphen?
  split
  · rw [trimStart_append hstop]
    cases Text.trimStart cs with
    | nil => cases hstop <;> simp [hc.symm]
    | cons d rest =>
      by_cases hd : d = '#'
      · rw [hd]
        change (Text.trimStart (rest ++ stop :: u)).head? = some c ↔ _
        rw [trimStart_append hstop, head?_append_eq_iff hc]
        rfl
      · simp [hd]
  · exact head?_append_eq_iff hc cs u

theorem standsAlone_append (f : Flags) (cs u : List Char) :
    afterHyphen? f (cs ++ stop :: u) = some ']' ∨ afterHyphen? f (cs ++ stop :: u) = some '-' ↔
      afterHyphen? f cs = some ']' ∨ afterHyphen? f cs = some '-' := by
  rw [afterHyphen?_append hstop f (by cases hstop <;> decide),
    afterHyphen?_append hstop f (by cases hstop <;> decide)]

end Stop

/-- What a reader leaves of a text that it goes on with: no more than the closing parenthesis and
what follows it. -/
def LeavesParen {α : Type} (u : List Char) (_ : α) (rest : List Char) : Prop := rest <:+ ')' :: u

theorem shrinks_range? (f : Flags) (first : Primitive) : Shrinks (range? f first) := by
  intro cs a rest h
  unfold range? at h
  split at h
  · cases h
  · split at h
    · obtain ⟨a', -, he⟩ := Option.map_eq_some_iff.mp h
      cases he
      exact List.suffix_refl _
    · refine List.IsSuffix.trans ?_ (List.suffix_cons _ _)
      exact (((tame_primitive? f).skip f).make _).shrinks _ a rest h
  · obtain ⟨a', -, he⟩ := Option.map_eq_some_iff.mp h
    cases he
    exact List.suffix_refl _

theorem range?_cons (f : Flags) (first : Primitive) {c : Char} (hc : c ≠ '-') (cs : List Char) :
    range? f first (c :: cs) = (ofPrimitive? f first).map (·, c :: cs) := by
  unfold range?
  split
  · cases ‹_›
  · exact absurd (List.cons.inj ‹_›).1 hc
  · rfl

theorem local_range? (f : Flags) (first : Primitive) (cs : List Char) :
    Local LeavesParen (range? f first) cs := by
  cases cs with
  | nil => exact .stuck rfl fun u a rest h ↦ shrinks_range? f first (')' :: u) a rest h
  | cons c cs =>
    by_cases hc : c = '-'
    · rw [hc]
      have halone := fun u ↦ standsAlone_append .paren f cs u
      by_cases hafter : afterHyphen? f cs = some ']' ∨ afterHyphen? f cs = some '-'
      · have hplain := (Tame.ofValue (ofPrimitive? f first) id).isLocal ('-' :: cs)
        refine (hplain.congr (if_pos hafter) fun u ↦ if_pos ((halone u).mpr hafter)).mono ?_
        exact fun u _ rest h ↦ h.trans (List.suffix_cons ')' u)
      · have hrange := (((tame_primitive? f).skip f).make (between? f first)).isLocal cs
        have hafterAppend := fun u ↦ mt (halone u).mp hafter
        refine .cons ((hrange.congr (if_neg hafter) fun u ↦ if_neg (hafterAppend u)).mono ?_)
        exact fun u _ rest h ↦ h.trans (List.suffix_cons ')' u)
    · have hplain := range?_cons f first hc
      have htame := (Tame.ofValue (ofPrimitive? f first) id).isLocal (c :: cs)
      refine (htame.congr (hplain cs) fun u ↦ hplain (cs ++ ')' :: u)).mono ?_
      exact fun u _ rest h ↦ h.trans (List.suffix_cons ')' u)

theorem indifferent_range? (f : Flags) (first : Primitive) : Indifferent (range? f first) := by
  have hplain := (Tame.ofValue (ofPrimitive? f first) id).indifferent
  intro x y u a h
  cases x with
  | nil => exact hplain [] y u a h
  | cons c x =>
    by_cases hc : c = '-'
    · rw [hc, List.cons_append, range?] at h ⊢
      by_cases hafter : afterHyphen? f x = some ']' ∨ afterHyphen? f x = some '-'
      · rw [if_pos ((standsAlone_append .paren f x u).mpr hafter)] at h
        rw [if_pos ((standsAlone_append .bar f x u).mpr hafter)]
        exact hplain ('-' :: x) y u a h
      · rw [if_neg (mt (standsAlone_append .paren f x u).mp hafter)] at h
        rw [if_neg (mt (standsAlone_append .bar f x u).mp hafter)]
        exact (((tame_primitive? f).skip f).make (between? f first)).indifferent x y u a h
    · rw [List.cons_append, range?_cons f first hc] at h ⊢
      exact hplain (c :: x) y u a h

theorem shrinks_skipRange? (f : Flags) (first : Primitive) :
    Shrinks fun cs ↦ range? f first (f.skip cs) :=
  f.tame_skip.shrinks.bind fun _ ↦ shrinks_range? f first

theorem local_skipRange? (f : Flags) (first : Primitive) (cs : List Char) :
    Local LeavesParen (fun cs ↦ range? f first (f.skip cs)) cs := by
  exact (f.tame_skip.isLocal cs).bind_of_usedUp (fun _ rest _ ↦ local_range? f first rest)
    (fun _ ↦ shrinks_range? f first) fun u _ rest h ↦ h.trans (List.suffix_cons ')' u)

theorem takes_item? (f : Flags) : Takes (item? f) :=
  (takes_primitive? f).bind (shrinks_skipRange? f)

theorem local_item? (f : Flags) (cs : List Char) : Local LeavesParen (item? f) cs := by
  exact ((tame_primitive? f).isLocal cs).bind_of_usedUp (fun p rest _ ↦ local_skipRange? f p rest)
    (shrinks_skipRange? f) fun u _ rest h ↦ h.trans (List.suffix_cons ')' u)

theorem indifferent_item? (f : Flags) : Indifferent (item? f) :=
  (tame_primitive? f).indifferent.bind
    (fun p ↦ f.tame_skip.indifferent.bind (fun _ ↦ indifferent_range? f p)
      fun _ ↦ shrinks_range? f p)
    (shrinks_skipRange? f)

/-! ## Names -/

/-- A name is read from a text if the text starts with it. -/
theorem nameClass?_eq_some_iff {cs rest : List Char} {a : CharClass} :
    nameClass? cs = some (a, rest) ↔ ∃ name, ':' ∉ name ∧ cs = name ++ ':' :: ']' :: rest ∧
      CharClass.ofBracketName? (.ofList name) = some a := by
  unfold nameClass?
  constructor
  · intro h
    split at h
    · next rest' hdrop =>
      obtain ⟨a', ha, he⟩ := Option.map_eq_some_iff.mp h
      cases he
      refine ⟨cs.takeWhile (· != ':'), fun hmem ↦ ?_, ?_, ha⟩
      · exact absurd (List.all_eq_true.mp List.all_takeWhile ':' hmem) (by decide)
      · rw [← hdrop]
        exact List.takeWhile_append_dropWhile.symm
    · cases h
  · rintro ⟨name, hcolon, rfl, ha⟩
    have hall : ∀ c ∈ name, (c != ':') = true := fun c hc ↦ bne_iff_ne.mpr fun he ↦ hcolon (he ▸ hc)
    have hstop : (':' :: ']' :: rest).dropWhile (· != ':') = ':' :: ']' :: rest := rfl
    have htake : (':' :: ']' :: rest).takeWhile (· != ':') = [] := rfl
    rw [List.dropWhile_append_of_pos hall, List.takeWhile_append_of_pos hall, hstop, htake,
      List.append_nil, ha]
    rfl

section Stop

variable {stop : Char} (hstop : IsStop stop)

include hstop

theorem stop_notMem_of_ofBracketName? {name : String} {a : CharClass}
    (h : CharClass.ofBracketName? name = some a) : stop ∉ name.toList := by
  have hname : (name.toList.all fun c ↦ 'a' ≤ c && c ≤ 'z') = true := by
    unfold CharClass.ofBracketName? at h
    split at h
    all_goals first
      | exact (by decide)
      | cases h
  rw [List.all_eq_true] at hname
  cases hstop with
  | paren => exact fun hmem ↦ absurd (hname _ hmem) (by decide)
  | bar => exact fun hmem ↦ absurd (hname _ hmem) (by decide)

/-- No name contains a closing parenthesis or a bar. -/
theorem nameClass?_append (cs u : List Char) :
    nameClass? (cs ++ stop :: u) = (nameClass? cs).map fun x ↦ (x.1, x.2 ++ stop :: u) := by
  have hne : stop ≠ ':' ∧ stop ≠ ']' := by cases hstop <;> decide
  ext ⟨a, rest⟩
  rw [Option.map_eq_some_iff]
  constructor
  · intro h
    obtain ⟨name, hcolon, heq, ha⟩ := nameClass?_eq_some_iff.mp h
    have hnotMem : stop ∉ name := by
      simpa using stop_notMem_of_ofBracketName? hstop ha
    rcases List.append_eq_append_iff.mp heq with ⟨front, rfl, hfront⟩ | ⟨back, rfl, hback⟩
    · -- The name would reach beyond the text.
      cases front with
      | nil => exact absurd (List.cons.inj hfront).1 hne.1
      | cons c front =>
        refine absurd (List.mem_append_right cs ?_) hnotMem
        rw [(List.cons.inj hfront).1]
        exact List.mem_cons_self
    · match back, hback with
      | [], hback => exact absurd (List.cons.inj hback).1.symm hne.1
      | [_], hback => exact absurd (List.cons.inj (List.cons.inj hback).2).1.symm hne.2
      | c :: d :: back, hback =>
        obtain ⟨hc, hback⟩ := List.cons.inj hback
        obtain ⟨hd, hrest⟩ := List.cons.inj hback
        rw [← hc, ← hd, hrest]
        exact ⟨(a, back), nameClass?_eq_some_iff.mpr ⟨name, hcolon, rfl, ha⟩, rfl⟩
  · rintro ⟨⟨a', rest'⟩, h, he⟩
    cases he
    obtain ⟨name, hcolon, rfl, ha⟩ := nameClass?_eq_some_iff.mp h
    exact nameClass?_eq_some_iff.mpr ⟨name, hcolon, by simp, ha⟩

theorem named?_append (cs u : List Char) :
    named? (cs ++ stop :: u) = (named? cs).map fun x ↦ (x.1, x.2 ++ stop :: u) := by
  match cs with
  | [] => cases hstop <;> rfl
  | [c] =>
    by_cases hc : c = ':'
    · rw [hc]
      have hplain : named? (':' :: stop :: u)
          = (nameClass? ([] ++ stop :: u)).map fun x ↦ ((false, x.1), x.2) := by
        cases hstop <;> rfl
      change named? (':' :: stop :: u) = _
      rw [hplain, nameClass?_append hstop]
      rfl
    · simp [named?, hc]
  | c :: d :: cs =>
    by_cases hc : c = ':'
    · rw [hc]
      by_cases hd : d = '^'
      · rw [hd]
        change (nameClass? (cs ++ stop :: u)).map _ = ((nameClass? cs).map _).map _
        rw [nameClass?_append hstop, Option.map_map, Option.map_map]
        rfl
      · have hplain : ∀ cs, named? (':' :: d :: cs)
            = (nameClass? (d :: cs)).map fun x ↦ ((false, x.1), x.2) := by
          simp [named?, hd]
        change named? (':' :: d :: (cs ++ stop :: u)) = _
        rw [hplain, hplain, ← List.cons_append, nameClass?_append hstop, Option.map_map,
          Option.map_map]
        rfl
    · simp [named?, hc]

end Stop

/-! ## Pieces -/

theorem shrinks_nameClass? : Shrinks nameClass? := by
  intro cs a rest h
  obtain ⟨name, -, rfl, -⟩ := nameClass?_eq_some_iff.mp h
  exact ⟨name ++ [':', ']'], by simp⟩

theorem shrinks_named? : Shrinks named? := by
  intro cs x rest h
  unfold named? at h
  split at h
  · obtain ⟨⟨a, rest'⟩, ha, he⟩ := Option.map_eq_some_iff.mp h
    cases he
    exact (shrinks_nameClass? _ a rest' ha).trans ⟨[':', '^'], rfl⟩
  · obtain ⟨⟨a, rest'⟩, ha, he⟩ := Option.map_eq_some_iff.mp h
    cases he
    exact (shrinks_nameClass? _ a rest' ha).trans (List.suffix_cons _ _)
  · cases h

theorem shrinks_opened? (f : Flags) : Shrinks (opened? f) := by
  intro cs p rest h
  unfold opened? at h
  cases hnamed : named? cs with
  | none =>
    rw [hnamed] at h
    cases h
    exact List.suffix_refl cs
  | some x =>
    rw [hnamed] at h
    obtain ⟨a, -, he⟩ := Option.map_eq_some_iff.mp h
    cases he
    exact shrinks_named? cs x.1 x.2 hnamed

theorem opened?_append {stop : Char} (hstop : IsStop stop) (f : Flags) (cs u : List Char) :
    opened? f (cs ++ stop :: u) = (opened? f cs).map fun x ↦ (x.1, x.2 ++ stop :: u) := by
  rw [opened?, opened?, named?_append hstop]
  cases named? cs with
  | none => rfl
  | some x =>
    change (f.negate? x.1.1 (f.fold x.1.2)).map _ = ((f.negate? x.1.1 (f.fold x.1.2)).map _).map _
    rw [Option.map_map]
    rfl

theorem tame_opened? (f : Flags) : Tame (opened? f) :=
  .of_append (shrinks_opened? f) fun _ hstop ↦ opened?_append hstop f

/-- What stands for itself is one character. -/
theorem standing?_cons (place : Place) (c : Char) :
    ∃ p : Option Piece, ∀ cs, standing? place (c :: cs) = p.map (·, cs) := by
  by_cases hhyphen : c = '-'
  · rw [hhyphen]
    cases place with
    | first => exact ⟨some (.items (.single '-') .hyphens), fun _ ↦ rfl⟩
    | hyphens => exact ⟨some (.items (.single '-') .hyphens), fun _ ↦ rfl⟩
    | inside => exact ⟨none, fun _ ↦ rfl⟩
  by_cases hbracket : c = ']'
  · rw [hbracket]
    cases place with
    | first => exact ⟨some (.items (.single ']') .inside), fun _ ↦ rfl⟩
    | hyphens => exact ⟨none, fun _ ↦ rfl⟩
    | inside => exact ⟨none, fun _ ↦ rfl⟩
  · refine ⟨none, fun cs ↦ ?_⟩
    cases place <;> simp [standing?, hhyphen, hbracket]

theorem standing?_nil (place : Place) : standing? place [] = none := by
  cases place <;> rfl

theorem standing?_stop {stop : Char} (hstop : IsStop stop) (place : Place) (u : List Char) :
    standing? place (stop :: u) = none := by
  cases hstop <;> cases place <;> rfl

theorem operation?_append {stop : Char} (hstop : IsStop stop) (sign : Char) (cs u : List Char) :
    operation? sign (cs ++ stop :: u)
      = (operation? sign cs).map fun x ↦ (x.1, x.2 ++ stop :: u) := by
  cases cs with
  | nil =>
    change (if stop = sign then (Operation.ofSign? sign).map (·, u) else none) = none
    split
    · next hsign =>
      rw [← hsign]
      cases hstop <;> rfl
    · rfl
  | cons c cs =>
    change (if c = sign then (Operation.ofSign? sign).map (·, cs ++ stop :: u) else none)
      = (if c = sign then (Operation.ofSign? sign).map (·, cs) else none).map _
    split
    · rw [Option.map_map]
      rfl
    · rfl

theorem shrinks_operation? (sign : Char) : Shrinks (operation? sign) := by
  intro cs operation rest h
  unfold operation? at h
  split at h
  · cases h
  · split at h
    · obtain ⟨operation', -, he⟩ := Option.map_eq_some_iff.mp h
      cases he
      exact List.suffix_cons _ _
    · cases h

/-- What a reader of pieces leaves of a text that it goes on with: less than the closing
parenthesis, or no more than that after an item. -/
def LeavesItem (u : List Char) (p : Piece) (rest : List Char) : Prop :=
  rest <:+ u ∨ (∃ a, p = .items a .inside) ∧ rest <:+ ')' :: u

theorem ordinary?_cons (f : Flags) {c : Char} (hclose : c ≠ ']') (hopen : c ≠ '[')
    (cs : List Char) : ordinary? f (c :: cs) = match operation? c cs with
      | some (operation, rest) => some (.operation operation, rest)
      | none => (item? f (c :: cs)).map fun x ↦ (.items x.1 .inside, x.2) := by
  unfold ordinary?
  split
  · cases ‹_ = []›
  · exact absurd (List.cons.inj ‹_›).1 hclose
  · exact absurd (List.cons.inj ‹_›).1 hopen
  · cases ‹_ = _›
    rfl

theorem takes_ordinary? (f : Flags) : Takes (ordinary? f) := by
  refine .cons rfl fun c cs p rest h ↦ ?_
  by_cases hclose : c = ']'
  · rw [hclose] at h
    cases h
    exact List.suffix_refl cs
  by_cases hopen : c = '['
  · rw [hopen] at h
    exact (tame_opened? f).shrinks cs p rest h
  · rw [ordinary?_cons f hclose hopen] at h
    split at h
    · next operation rest' hoperation =>
      cases h
      exact shrinks_operation? c cs operation rest hoperation
    · obtain ⟨⟨a, rest'⟩, ha, he⟩ := Option.map_eq_some_iff.mp h
      cases he
      exact (takes_item? f).suffix ha

theorem local_ordinary? (f : Flags) (cs : List Char) : Local LeavesItem (ordinary? f) cs := by
  cases cs with
  | nil => exact .stuck rfl fun u p rest h ↦ .inl ((takes_ordinary? f).suffix h)
  | cons c cs =>
    by_cases hclose : c = ']'
    · rw [hclose]
      exact .same .close cs rfl fun _ ↦ rfl
    by_cases hopen : c = '['
    · rw [hopen]
      exact .cons (((tame_opened? f).isLocal cs).mono fun _ _ _ ↦ .inl)
    have hcons := ordinary?_cons f hclose hopen
    cases hoperation : operation? c cs with
    | some x =>
      refine .same (.operation x.1) x.2 ?_ fun u ↦ ?_
      · rw [hcons, hoperation]
      · change ordinary? f (c :: (cs ++ ')' :: u)) = _
        rw [hcons, operation?_append .paren, hoperation]
        rfl
    | none =>
      -- The parenthesis does not double a sign, so there is no operation before it either.
      have hitem : Local LeavesItem
          (fun cs ↦ (item? f cs).map fun x ↦ (.items x.1 .inside, x.2)) (c :: cs) :=
        (local_item? f (c :: cs)).map (Piece.items · .inside) fun _ a _ h ↦ Or.inr ⟨⟨a, rfl⟩, h⟩
      refine hitem.congr ?_ fun u ↦ ?_
      · rw [hcons, hoperation]
      · change ordinary? f (c :: (cs ++ ')' :: u)) = _
        rw [hcons, operation?_append .paren, hoperation]
        rfl

theorem indifferent_ordinary? (f : Flags) : Indifferent (ordinary? f) := by
  refine .cons (fun _ _ _ ↦ (takes_ordinary? f).suffix) fun c ↦ ?_
  by_cases hclose : c = ']'
  · rw [hclose]
    exact (Tame.pure _).indifferent
  by_cases hopen : c = '['
  · rw [hopen]
    exact (tame_opened? f).indifferent
  have hcons := ordinary?_cons f hclose hopen
  intro x y u p h
  replace h : ordinary? f (c :: (x ++ ')' :: u)) = some (p, y ++ ')' :: u) := h
  change ordinary? f (c :: (x ++ '|' :: u)) = some (p, y ++ '|' :: u)
  rw [hcons, operation?_append .paren] at h
  rw [hcons, operation?_append .bar]
  cases hoperation : operation? c x with
  | some found =>
    rw [hoperation] at h
    exact (Tame.pure _).indifferent found.2 y u p h
  | none =>
    rw [hoperation] at h
    exact (indifferent_item? f).map (Piece.items · .inside) (c :: x) y u p h

theorem takes_standingOrOrdinary? (f : Flags) (place : Place) :
    Takes fun cs ↦ (standing? place cs).or (ordinary? f cs) := by
  refine .cons (by rw [standing?_nil]; rfl) fun c cs p rest h ↦ ?_
  obtain ⟨q, hq⟩ := standing?_cons place c
  rw [hq] at h
  cases q with
  | none => exact (takes_ordinary? f).suffix h
  | some q =>
    cases h
    exact List.suffix_refl cs

theorem local_standingOrOrdinary? (f : Flags) (place : Place) (cs : List Char) :
    Local LeavesItem (fun cs ↦ (standing? place cs).or (ordinary? f cs)) cs := by
  cases cs with
  | nil =>
    refine (local_ordinary? f []).congr (by rw [standing?_nil]; rfl) fun u ↦ ?_
    rw [List.nil_append, standing?_stop .paren]
    rfl
  | cons c cs =>
    obtain ⟨q, hq⟩ := standing?_cons place c
    cases q with
    | none =>
      refine (local_ordinary? f (c :: cs)).congr (by rw [hq]; rfl) fun u ↦ ?_
      rw [List.cons_append, hq]
      rfl
    | some q =>
      refine .same q cs (by rw [hq]; rfl) fun u ↦ ?_
      rw [List.cons_append, hq]
      rfl

theorem indifferent_standingOrOrdinary? (f : Flags) (place : Place) :
    Indifferent fun cs ↦ (standing? place cs).or (ordinary? f cs) := by
  refine .cons (fun _ _ _ ↦ (takes_standingOrOrdinary? f place).suffix) fun c ↦ ?_
  obtain ⟨q, hq⟩ := standing?_cons place c
  cases q with
  | none =>
    have hordinary : (fun cs ↦ (standing? place (c :: cs)).or (ordinary? f (c :: cs))) =
        fun cs ↦ ordinary? f (c :: cs) := by
      funext cs
      rw [hq]
      rfl
    rw [hordinary]
    exact fun x y u p h ↦ indifferent_ordinary? f (c :: x) y u p h
  | some q =>
    have hstanding : (fun cs ↦ (standing? place (c :: cs)).or (ordinary? f (c :: cs))) =
        fun cs ↦ some (q, cs) := by
      funext cs
      rw [hq]
      rfl
    rw [hstanding]
    exact (Tame.pure q).indifferent

theorem takes_piece? (f : Flags) (place : Place) : Takes (piece? f place) :=
  .of_shrinks_bind f.tame_skip.shrinks fun _ ↦ takes_standingOrOrdinary? f place

theorem local_piece? (f : Flags) (place : Place) (cs : List Char) :
    Local LeavesItem (piece? f place) cs := by
  exact (f.tame_skip.isLocal cs).bind_of_usedUp
    (fun _ rest _ ↦ local_standingOrOrdinary? f place rest)
    (fun _ ↦ (takes_standingOrOrdinary? f place).shrinks) fun _ _ _ ↦ .inl

theorem indifferent_piece? (f : Flags) (place : Place) : Indifferent (piece? f place) :=
  f.tame_skip.indifferent.bind (fun _ ↦ indifferent_standingOrOrdinary? f place)
    fun _ ↦ (takes_standingOrOrdinary? f place).shrinks

/-- The circumflex at the start of a class, as a reader. -/
theorem tame_takeCircumflex (f : Flags) : Tame fun cs ↦ some (takeCircumflex f cs) := by
  refine .head (c := '^') ((Tame.pure true).skip f) (Tame.pure false) (by decide) (by decide)
    (fun _ ↦ rfl) fun cs hcs ↦ ?_
  unfold takeCircumflex
  split
  · exact absurd rfl hcs
  · rfl

theorem length_takeCircumflex_le (f : Flags) (cs : List Char) :
    (takeCircumflex f (f.skip cs)).2.length ≤ cs.length :=
  (((tame_takeCircumflex f).skip f).shrinks cs _ _ rfl).length_le

/-! ## The depth -/

/-- What is read after a piece, given a reader for classes within the class and one for its
items. -/
def after (f : Flags) (inner : Reader CharClass)
    (next : Place → Option (Operation × CharClass) → CharClass → Reader CharClass)
    (pending : Option (Operation × CharClass)) (a : CharClass) : Piece → Reader CharClass
  | .close => fun cs ↦ some (combine f pending a, cs)
  | .operation operation => next .inside (some (operation, combine f pending a)) .empty
  | .nested => fun cs ↦ (inner cs).bind fun x ↦ next .inside pending (.union a x.1) x.2
  | .items b place => next place pending (.union a b)

theorem class?_succ (f : Flags) (depth : Nat) (cs : List Char) :
    class? f (depth + 1) cs = (some (takeCircumflex f (f.skip cs))).bind fun x ↦
      Reader.make (items? f depth .first none .empty x.2) fun a ↦ f.negate? x.1 (f.fold a) := by
  rw [class?]
  obtain ⟨negated, cs⟩ := takeCircumflex f (f.skip cs)
  dsimp only [Option.bind_some, Reader.make]
  cases items? f depth .first none .empty cs with
  | none => rfl
  | some x =>
    change (f.negate? negated (f.fold x.1)).bind _ = (f.negate? negated (f.fold x.1)).map _
    rw [Option.map_eq_bind]
    rfl

theorem items?_succ (f : Flags) (depth : Nat) (place : Place)
    (pending : Option (Operation × CharClass)) (a : CharClass) (cs : List Char) :
    items? f (depth + 1) place pending a cs = (piece? f place cs).bind fun x ↦
      after f (class? f depth) (items? f depth) pending a x.1 x.2 := by
  rw [items?]
  cases piece? f place cs with
  | none => rfl
  | some x =>
    obtain ⟨p, rest⟩ := x
    cases p <;> rfl

theorem shrinks_after {f : Flags} {inner : Reader CharClass}
    {next : Place → Option (Operation × CharClass) → CharClass → Reader CharClass}
    (hinner : Shrinks inner) (hnext : ∀ place pending a, Shrinks (next place pending a))
    (pending : Option (Operation × CharClass)) (a : CharClass) (p : Piece) :
    Shrinks (after f inner next pending a p) := by
  cases p with
  | close => exact (Tame.pure _).shrinks
  | operation operation => exact hnext _ _ _
  | nested => exact hinner.bind fun b ↦ hnext .inside pending (.union a b)
  | items b place => exact hnext _ _ _

theorem shrinks_atDepth (f : Flags) (depth : Nat) :
    Shrinks (class? f depth) ∧ ∀ place pending a, Takes (items? f depth place pending a) := by
  induction depth with
  | zero => exact ⟨fun _ _ _ h ↦ (nomatch h), fun _ _ _ _ _ _ h ↦ (nomatch h)⟩
  | succ depth ih =>
    obtain ⟨hclass, hitems⟩ := ih
    refine ⟨?_, fun place pending a ↦ ?_⟩
    · rw [funext (class?_succ f depth)]
      refine ((tame_takeCircumflex f).skip f).shrinks.bind (G := fun negated cs ↦
        Reader.make (items? f depth .first none .empty cs) fun a ↦ f.negate? negated (f.fold a)) ?_
      exact fun _ ↦ (hitems .first none .empty).shrinks.make _
    · rw [funext (items?_succ f depth place pending a)]
      refine (takes_piece? f place).bind fun p ↦ ?_
      exact shrinks_after hclass (fun _ _ _ ↦ (hitems _ _ _).shrinks) pending a p

theorem after_congr {f : Flags} {inner inner' : Reader CharClass}
    {next next' : Place → Option (Operation × CharClass) → CharClass → Reader CharClass}
    {cs : List Char} (hshrinks : Shrinks inner) (hinner : inner cs = inner' cs)
    (hnext : ∀ place pending a rest, rest <:+ cs →
      next place pending a rest = next' place pending a rest)
    (pending : Option (Operation × CharClass)) (a : CharClass) (p : Piece) :
    after f inner next pending a p cs = after f inner' next' pending a p cs := by
  cases p with
  | close => rfl
  | operation operation => exact hnext _ _ _ cs (List.suffix_refl cs)
  | nested =>
    change (inner cs).bind _ = (inner' cs).bind _
    rw [← hinner]
    cases hcs : inner cs with
    | none => rfl
    | some x => exact hnext _ _ _ x.2 (hshrinks cs x.1 x.2 hcs)
  | items b place => exact hnext _ _ _ cs (List.suffix_refl cs)

/-- Depths that suffice for a text are as good as one another. -/
theorem depth_congr (f : Flags) (n : Nat) : ∀ cs : List Char, cs.length < n →
    (∀ place pending a d d', 2 * cs.length + 1 ≤ d → 2 * cs.length + 1 ≤ d' →
      items? f d place pending a cs = items? f d' place pending a cs) ∧
    ∀ d d', 2 * cs.length + 2 ≤ d → 2 * cs.length + 2 ≤ d' → class? f d cs = class? f d' cs := by
  induction n with
  | zero => exact fun cs h ↦ absurd h (Nat.not_lt_zero _)
  | succ n ih =>
    -- What follows a piece is shorter, and a class is no longer than its items.
    have hitems : ∀ cs : List Char, cs.length < n + 1 → ∀ place pending a d d',
        2 * cs.length + 1 ≤ d → 2 * cs.length + 1 ≤ d' →
          items? f d place pending a cs = items? f d' place pending a cs := by
      intro cs hn place pending a d d' hd hd'
      obtain ⟨e, rfl⟩ : ∃ e, d = e + 1 := ⟨d - 1, by omega⟩
      obtain ⟨e', rfl⟩ : ∃ e', d' = e' + 1 := ⟨d' - 1, by omega⟩
      rw [items?_succ, items?_succ]
      cases hpiece : piece? f place cs with
      | none => rfl
      | some x =>
        have hlt := (takes_piece? f place).length_lt hpiece
        have hclass := (ih x.2 (by omega)).2 e e' (by omega) (by omega)
        refine after_congr (shrinks_atDepth f e).1 hclass (fun place pending a rest h ↦ ?_) ..
        have hle := h.length_le
        exact (ih rest (by omega)).1 place pending a e e' (by omega) (by omega)
    refine fun cs hn ↦ ⟨hitems cs hn, fun d d' hd hd' ↦ ?_⟩
    obtain ⟨e, rfl⟩ : ∃ e, d = e + 1 := ⟨d - 1, by omega⟩
    obtain ⟨e', rfl⟩ : ∃ e', d' = e' + 1 := ⟨d' - 1, by omega⟩
    have hle := length_takeCircumflex_le f cs
    rw [class?_succ, class?_succ, Option.bind_some, Option.bind_some,
      hitems _ (by omega) _ _ _ e e' (by omega) (by omega)]

/-- The items of a class, at a depth that suffices. -/
def readItems? (f : Flags) (place : Place) (pending : Option (Operation × CharClass))
    (a : CharClass) : Reader CharClass := fun cs ↦
  items? f (2 * cs.length + 1) place pending a cs

theorem read?_eq (f : Flags) (cs : List Char) :
    read? f cs = (some (takeCircumflex f (f.skip cs))).bind fun x ↦
      Reader.make (readItems? f .first none .empty x.2) fun a ↦ f.negate? x.1 (f.fold a) := by
  have hle := length_takeCircumflex_le f cs
  rw [read?, depthFor, class?_succ, Option.bind_some, Option.bind_some, readItems?,
    (depth_congr f _ _ (Nat.lt_succ_self _)).1 _ _ _ (2 * cs.length + 1) _ (by omega) le_rfl]

theorem readItems?_eq (f : Flags) (place : Place) (pending : Option (Operation × CharClass))
    (a : CharClass) (cs : List Char) : readItems? f place pending a cs =
      (piece? f place cs).bind fun x ↦ after f (read? f) (readItems? f) pending a x.1 x.2 := by
  rw [readItems?, items?_succ]
  cases hpiece : piece? f place cs with
  | none => rfl
  | some x =>
    have hlt := (takes_piece? f place).length_lt hpiece
    refine after_congr (shrinks_atDepth f _).1 ?_ (fun place pending a rest h ↦ ?_) ..
    · exact (depth_congr f _ _ (Nat.lt_succ_self _)).2 _ _ (by omega) le_rfl
    · have hle := h.length_le
      exact (depth_congr f _ _ (Nat.lt_succ_self _)).1 _ _ _ _ _ (by omega) le_rfl

theorem takes_readItems? (f : Flags) (place : Place) (pending : Option (Operation × CharClass))
    (a : CharClass) : Takes (readItems? f place pending a) := fun cs b rest h ↦
  (shrinks_atDepth f _).2 place pending a cs b rest h

theorem shrinks_read? (f : Flags) : Shrinks (read? f) := fun cs a rest h ↦
  (shrinks_atDepth f _).1 cs a rest h

theorem shrinks_afterPiece (f : Flags) (pending : Option (Operation × CharClass)) (a : CharClass)
    (p : Piece) : Shrinks (after f (read? f) (readItems? f) pending a p) :=
  shrinks_after (shrinks_read? f) (fun _ _ _ ↦ (takes_readItems? f _ _ _).shrinks) pending a p

/-! ## Whole classes -/

theorem local_after {f : Flags} {cs : List Char} (hclass : Local UsedUp (read? f) cs)
    (hitems : ∀ rest, rest <:+ cs →
      ∀ place pending a, Local UsedUp (readItems? f place pending a) rest)
    (pending : Option (Operation × CharClass)) (a : CharClass) (p : Piece) :
    Local UsedUp (after f (read? f) (readItems? f) pending a p) cs := by
  have hself := hitems cs (List.suffix_refl cs)
  cases p with
  | close => exact (Tame.pure _).isLocal cs
  | operation operation => exact hself _ _ _
  | nested =>
    refine hclass.bind_of_usedUp (fun b rest hread ↦ ?_)
      (fun b ↦ (takes_readItems? f _ _ _).shrinks) fun _ _ _ ↦ id
    exact hitems rest (shrinks_read? f cs b rest hread) _ _ _
  | items b place => exact hself _ _ _

/-- What follows a piece never leaves the parenthesis: after an item, more is read. -/
theorem suffix_of_after {f : Flags} {pending : Option (Operation × CharClass)} {a b : CharClass}
    {p : Piece} {u rest rest' : List Char} (hrest : LeavesItem u p rest)
    (h : after f (read? f) (readItems? f) pending a p rest = some (b, rest')) : rest' <:+ u := by
  rcases hrest with hrest | ⟨⟨c, rfl⟩, hrest⟩
  · exact (shrinks_afterPiece f pending a p rest b rest' h).trans hrest
  · obtain ⟨d, cs, rfl, hrest'⟩ := takes_readItems? f _ _ _ rest b rest' h
    rcases List.suffix_cons_iff.mp hrest with heq | hsuffix
    · obtain ⟨rfl, rfl⟩ := List.cons.inj heq
      exact hrest'
    · exact (hrest'.trans (List.suffix_cons d cs)).trans hsuffix

theorem local_atLength (f : Flags) (n : Nat) : ∀ cs : List Char, cs.length < n →
    (∀ place pending a, Local UsedUp (readItems? f place pending a) cs) ∧
      Local UsedUp (read? f) cs := by
  induction n with
  | zero => exact fun cs h ↦ absurd h (Nat.not_lt_zero _)
  | succ n ih =>
    have hitems : ∀ cs : List Char, cs.length < n + 1 →
        ∀ place pending a, Local UsedUp (readItems? f place pending a) cs := by
      intro cs hn place pending a
      rw [funext (readItems?_eq f place pending a)]
      refine (local_piece? f place cs).bind (fun p rest hpiece ↦ ?_)
        (shrinks_afterPiece f pending a) (fun _ _ _ ↦ id) fun u p rest b rest' ↦ suffix_of_after
      have hlt := (takes_piece? f place).length_lt hpiece
      refine local_after (ih rest (by omega)).2 (fun rest' h ↦ ?_) pending a p
      have hle := h.length_le
      exact (ih rest' (by omega)).1
    refine fun cs hn ↦ ⟨hitems cs hn, ?_⟩
    have hstart := (tame_takeCircumflex f).skip f
    rw [funext (read?_eq f)]
    refine (hstart.isLocal cs).bind_of_usedUp (G := fun negated cs ↦
      Reader.make (readItems? f .first none .empty cs) fun a ↦ f.negate? negated (f.fold a))
      (fun negated rest h ↦ ?_) (fun _ ↦ (takes_readItems? f _ _ _).shrinks.make _) fun _ _ _ ↦ id
    have hle := (hstart.shrinks cs negated rest h).length_le
    exact (hitems rest (by omega) .first none .empty).make _

theorem indifferent_after {f : Flags} {inner : Reader CharClass}
    {next : Place → Option (Operation × CharClass) → CharClass → Reader CharClass}
    (hinner : Indifferent inner) (hnext : ∀ place pending a, Indifferent (next place pending a))
    (hshrinks : ∀ place pending a, Shrinks (next place pending a))
    (pending : Option (Operation × CharClass)) (a : CharClass) (p : Piece) :
    Indifferent (after f inner next pending a p) := by
  cases p with
  | close => exact (Tame.pure _).indifferent
  | operation operation => exact hnext _ _ _
  | nested =>
    exact hinner.bind (fun b ↦ hnext .inside pending (.union a b)) fun _ ↦ hshrinks _ _ _
  | items b place => exact hnext _ _ _

theorem indifferent_atDepth (f : Flags) (depth : Nat) :
    Indifferent (class? f depth) ∧
      ∀ place pending a, Indifferent (items? f depth place pending a) := by
  induction depth with
  | zero => exact ⟨Tame.fail.indifferent, fun _ _ _ ↦ Tame.fail.indifferent⟩
  | succ depth ih =>
    obtain ⟨hclass, hitems⟩ := ih
    obtain ⟨hshrinks, htakes⟩ := shrinks_atDepth f depth
    refine ⟨?_, fun place pending a ↦ ?_⟩
    · rw [funext (class?_succ f depth)]
      exact ((tame_takeCircumflex f).skip f).indifferent.bind (G := fun negated cs ↦
        Reader.make (items? f depth .first none .empty cs) fun a ↦ f.negate? negated (f.fold a))
        (fun _ ↦ (hitems .first none .empty).make _) fun _ ↦
          (htakes .first none .empty).shrinks.make _
    · rw [funext (items?_succ f depth place pending a)]
      refine (indifferent_piece? f place).bind (fun p ↦ ?_) fun p ↦ ?_
      · exact indifferent_after hclass hitems (fun _ _ _ ↦ (htakes _ _ _).shrinks) pending a p
      · exact shrinks_after hshrinks (fun _ _ _ ↦ (htakes _ _ _).shrinks) pending a p

/-- A depth suffices as well if a parenthesis is exchanged for a bar. -/
theorem indifferent_read? (f : Flags) : Indifferent (read? f) := by
  intro x y u a h
  have hdepth : depthFor (x ++ '|' :: u) = depthFor (x ++ ')' :: u) := by
    simp only [depthFor, List.length_append, List.length_cons]
  rw [read?, hdepth]
  exact (indifferent_atDepth f _).1 x y u a h

/-- **A class in brackets is read in the same way before a closing parenthesis.** -/
theorem tame_read? (f : Flags) : Tame (read? f) where
  shrinks := shrinks_read? f
  isLocal cs := (local_atLength f _ cs (Nat.lt_succ_self _)).2
  indifferent := indifferent_read? f

end TagQuery.Regex.Bracket
