import TagQuery.Proofs.Query.Layout

/-!
# Where the tokens of a text end

The tokens of a text are read in rounds. Each round takes the separators before a token and the
token itself off what is left of the text, and so moves on to another *place* (`Advances`). Since a
token has at least one character, the rounds come to an end, and they do so in one of two ways: only
separators are left, or the next character after them is *stray*, which means that no token starts
there (`Place.Halts`).

A round sees all that is left of the text. It does not make use of it, though: what was read before
a stray character is a layout of its own, because no token goes on with a stray character
(`IsStray.endsBefore`). So the text can be cut off there, and the tokens before stay what they are.
-/

namespace TagQuery.Query

/-- No token starts with a character, given what follows it: neither a word nor a symbol, and if it
is a quote, then it opens no text that another quote closes. -/
structure IsStray (c : Char) (rest : List Char) : Prop where
  separator : isSeparator c = false
  word : isWordCharacter c = false
  symbol : ∀ s : Symbol, s.spelling.toList.head? ≠ some c
  quote : c = '"' → ∀ body content after, Quotes body content → rest ≠ body ++ '"' :: after

section Stray

variable {c : Char} {rest : List Char}

theorem Symbol.scan?_eq_none_iff_head? :
    Symbol.scan? (c :: rest) = none ↔ ∀ s : Symbol, s.spelling.toList.head? ≠ some c := by
  rw [Symbol.scan?_cons_eq_none_iff]
  constructor
  · intro hc s hs
    refine hc ?_
    cases s with
    | comparison op =>
      cases op
      all_goals (cases hs; decide)
    | _ =>
      cases hs
      decide
  · intro h hc
    simp only [List.mem_cons, List.not_mem_nil, or_false] at hc
    rcases hc with rfl | rfl | rfl | rfl | rfl | rfl | rfl | rfl | rfl
    · exact h .bang rfl
    · exact h (.comparison .less) rfl
    · exact h (.comparison .greater) rfl
    · exact h .equal rfl
    · exact h .like rfl
    · exact h .openParen rfl
    · exact h .closeParen rfl
    · exact h .comma rfl
    · exact h .bar rfl

theorem scan?_eq_none_iff_isStray (hc : isSeparator c = false) :
    Token.scan? (c :: rest) = none ↔ IsStray c rest := by
  constructor
  · intro h
    have hsymbol : Symbol.scan? (c :: rest) = none := by
      refine Option.eq_none_iff_forall_ne_some.mpr fun found hfound ↦ ?_
      rw [Token.scan?_symbol hfound] at h
      cases h
    refine ⟨hc, ?_, Symbol.scan?_eq_none_iff_head?.mp hsymbol, ?_⟩
    · by_cases hquote : c = '"'
      · rw [hquote]
        decide
      · rw [Token.scan?_word hsymbol hquote, List.takeWhile_cons] at h
        refine Bool.eq_false_iff.mpr fun hword ↦ ?_
        rw [if_pos hword] at h
        cases h
    · rintro rfl body content after hquotes rfl
      rw [Token.scan?_quote, Token.scanQuoted?_eq_some_iff.mpr ⟨body, hquotes, rfl⟩] at h
      cases h
  · intro h
    have hsymbol : Symbol.scan? (c :: rest) = none := Symbol.scan?_eq_none_iff_head?.mpr h.symbol
    by_cases hquote : c = '"'
    · subst hquote
      rw [Token.scan?_quote, Option.map_eq_none_iff, Option.eq_none_iff_forall_ne_some]
      rintro ⟨content, after⟩ hscan
      obtain ⟨body, hquotes, hrest⟩ := Token.scanQuoted?_eq_some_iff.mp hscan
      exact h.quote rfl body content after hquotes hrest
    · rw [Token.scan?_word hsymbol hquote, List.takeWhile_cons, h.word]
      rfl

/-- No token goes on with a stray character. -/
theorem IsStray.endsBefore (h : IsStray c rest) (t : Token) : t.EndsBefore (c :: rest) := by
  rintro _ ⟨⟩
  have hequal : (c == '=') = false := beq_false_of_ne (by rintro rfl; exact h.symbol .equal rfl)
  have hlike : (c == '~') = false := beq_false_of_ne (by rintro rfl; exact h.symbol .like rfl)
  fun_cases Token.goesOn t c <;> simp [h.word, hequal, hlike]

theorem Token.EndsBefore.append {t : Token} {cs : List Char} (h : t.EndsBefore cs)
    (hc : IsStray c rest) : t.EndsBefore (cs ++ c :: rest) := by
  cases cs with
  | nil => exact hc.endsBefore t
  | cons d cs => exact h

theorem Token.EndsBefore.of_append {t : Token} {cs tail : List Char}
    (h : t.EndsBefore (cs ++ tail)) : t.EndsBefore cs := by
  intro c hc
  obtain ⟨cs, rfl⟩ := List.head?_eq_some_iff.mp hc
  exact h c rfl

end Stray

/-! ## Rounds -/

/-- A place in a text: its byte offset, and what is left of the text there. -/
structure Place where
  offset : Nat
  left : List Char

/-- One round: separators and a token are taken off what is left. -/
inductive Advances : Place → PlacedToken → Place → Prop
  | token {offset : Nat} {gap spelling left : List Char} {t : Token}
      (hgap : ∀ c ∈ gap, isSeparator c = true)
      (hscan : Token.scan? (spelling ++ left) = some (t, left)) :
      Advances ⟨offset, gap ++ (spelling ++ left)⟩ ⟨t, offset + Text.utf8Length gap⟩
        ⟨offset + Text.utf8Length (gap ++ spelling), left⟩

/-- Any number of rounds, and the tokens they read. -/
inductive Reads : Place → List PlacedToken → Place → Prop
  | refl (p : Place) : Reads p [] p
  | step {p q r : Place} {t : PlacedToken} {ts : List PlacedToken} (h : Advances p t q)
      (hs : Reads q ts r) : Reads p (t :: ts) r

/-- There is no further round: only separators are left, or a stray character after them. -/
inductive Place.Halts : Place → Prop
  | atEnd {p : Place} (h : ∀ c ∈ p.left, isSeparator c = true) : Halts p
  | atStray {offset : Nat} {gap rest : List Char} {c : Char}
      (hgap : ∀ d ∈ gap, isSeparator d = true) (hc : IsStray c rest) :
      Halts ⟨offset, gap ++ c :: rest⟩

section Rounds

variable {p q : Place} {t : PlacedToken} {ts : List PlacedToken}

theorem Advances.tokensFrom_eq (h : Advances p t q) :
    tokensFrom p.offset p.left = (tokensFrom q.offset q.left).map (t :: ·) := by
  obtain ⟨hgap, hscan⟩ := h
  exact Layout.tokensFrom_gap hgap hscan _

/-- A round takes at least one character. -/
theorem Advances.length_lt (h : Advances p t q) : q.left.length < p.left.length := by
  obtain @⟨offset, gap, spelling, left, t, hgap, hscan⟩ := h
  have hlt := Token.length_scan?_lt hscan
  simp only [List.length_append] at hlt ⊢
  omega

theorem Reads.tokensFrom_eq (h : Reads p ts q) :
    tokensFrom p.offset p.left = (tokensFrom q.offset q.left).map (ts ++ ·) := by
  induction h with
  | refl p => exact (Except.map_id ▸ rfl)
  | step h _ ih =>
    rw [h.tokensFrom_eq, ih]
    cases tokensFrom _ _ <;> rfl

/-- There are no more rounds than characters that they take. -/
theorem Reads.length_le (h : Reads p ts q) : ts.length + q.left.length ≤ p.left.length := by
  induction h with
  | refl p => rw [List.length_nil, Nat.zero_add]
  | step h _ ih =>
    have hlt := h.length_lt
    rw [List.length_cons]
    omega

/-- The tokens that are read up to a place are what the text before the place is a layout of. -/
theorem Reads.exists_layout (h : Reads p ts q) :
    ∃ l : Layout, l.IsProper ∧ l.tail = [] ∧ p.left = l.text ++ q.left ∧
      q.offset = p.offset + Text.utf8Length l.text ∧
      Layout.placedFrom p.offset l.inscriptions = ts := by
  induction h with
  | refl p =>
    refine ⟨⟨[], []⟩, ?_, rfl, rfl, rfl, rfl⟩
    exact ⟨List.forall_mem_nil _, List.forall_mem_nil _, List.forall_mem_nil _, .nil⟩
  | @step _ _ r t ts h _ ih =>
    obtain ⟨⟨is, tail⟩, hproper, rfl, hleft, hoffset, hplaced⟩ := ih
    obtain @⟨offset, gap, spelling, left, t, hgap, hscan⟩ := h
    obtain rfl : left = Layout.text ⟨is, []⟩ ++ r.left := hleft
    obtain ⟨spelling', hspells, hspelling, hends⟩ := Token.scan?_eq_some_iff.mp hscan
    obtain rfl : spelling = spelling' := List.append_cancel_right hspelling
    refine ⟨⟨⟨gap, spelling, t⟩ :: is, []⟩, hproper.cons hgap hspells hends.of_append, rfl,
      ?_, ?_, ?_⟩
    · simp only [Layout.text_cons, List.append_assoc]
    · simp only [hoffset, Layout.text_cons, Text.utf8Length_append, Nat.add_assoc]
    · rw [Layout.placedFrom, Inscription.text, hplaced]

/-- Wherever the rounds start, they come to an end. -/
theorem exists_reads_halts (offset : Nat) (cs : List Char) :
    ∃ ts q, Reads ⟨offset, cs⟩ ts q ∧ q.Halts := by
  have hgap : ∀ cs : List Char, ∀ c ∈ cs.takeWhile isSeparator, isSeparator c = true :=
    fun cs c hc ↦ List.all_eq_true.mp List.all_takeWhile c hc
  fun_induction tokensFrom offset cs with
  | case1 offset cs hdrop =>
    exact ⟨[], _, .refl _, .atEnd (List.dropWhile_eq_nil_iff.mp hdrop)⟩
  | case2 offset cs start c cs' hdrop hscan =>
    have hc : isSeparator c = false := by
      have hhead := List.head?_dropWhile_not isSeparator cs
      rw [hdrop] at hhead
      simpa using hhead
    refine ⟨[], _, .refl _, ?_⟩
    rw [← List.takeWhile_append_dropWhile (p := isSeparator) (l := cs), hdrop]
    exact .atStray (hgap cs) ((scan?_eq_none_iff_isStray hc).mp hscan)
  | case3 offset cs start c cs' hdrop token rest hscan ih =>
    obtain ⟨ts, q, hreads, hhalts⟩ := ih
    obtain ⟨spelling, -, hcs, -⟩ := Token.scan?_eq_some_iff.mp hscan
    rw [hcs, Text.utf8Length_append, Nat.add_sub_cancel, Nat.add_assoc,
      ← Text.utf8Length_append] at hreads
    rw [hcs] at hdrop hscan
    have hround : Advances ⟨offset, _⟩ _ _ := .token (hgap cs) hscan
    rw [← hdrop, List.takeWhile_append_dropWhile] at hround
    exact ⟨⟨token, start⟩ :: ts, q, .step hround hreads, hhalts⟩

/-- The fault is a stray character, and it lies where that stands. -/
theorem tokensFrom_stray {gap rest : List Char} {c : Char}
    (hgap : ∀ d ∈ gap, isSeparator d = true) (hc : IsStray c rest) (offset : Nat) :
    tokensFrom offset (gap ++ c :: rest) = .error ⟨c, offset + Text.utf8Length gap⟩ := by
  have hhead : ∀ d ∈ (c :: rest).head?, isSeparator d = false := by
    rintro _ ⟨⟩
    exact hc.separator
  obtain ⟨htake, hdrop⟩ := Text.takeWhile_append_eq hgap hhead
  have hscan : Token.scan? (c :: rest) = none := (scan?_eq_none_iff_isStray hc.separator).mpr hc
  rw [tokensFrom]
  split
  · next hnil =>
    rw [hdrop] at hnil
    cases hnil
  · next c' cs hcons =>
    rw [hdrop] at hcons
    cases hcons
    rw [htake]
    split
    · rfl
    · next hsome =>
      rw [hscan] at hsome
      cases hsome

/-- What is laid out before a stray character is read, up to the tail of the layout. -/
theorem reads_text {is : List Inscription} {tail rest : List Char} {c : Char}
    (h : Layout.IsProper ⟨is, tail⟩) (hc : IsStray c rest) (offset : Nat) :
    ∃ offset', Reads ⟨offset, Layout.text ⟨is, tail⟩ ++ c :: rest⟩ (Layout.placedFrom offset is)
        ⟨offset', tail ++ c :: rest⟩ ∧
      offset' + Text.utf8Length tail = offset + Text.utf8Length (Layout.text ⟨is, tail⟩) := by
  induction is generalizing offset with
  | nil => exact ⟨offset, .refl _, rfl⟩
  | cons i is ih =>
    obtain ⟨offset', hreads, hoffset⟩ := ih h.of_cons (offset + Text.utf8Length i.text)
    have hends : i.token.EndsBefore (Layout.text ⟨is, tail⟩ ++ c :: rest) := h.endsBefore.append hc
    have hscan := Token.scan?_eq_some_iff.mpr
      ⟨i.spelling, h.spells i List.mem_cons_self, rfl, hends⟩
    refine ⟨offset', ?_, ?_⟩
    · simp only [Layout.text_cons, List.append_assoc]
      exact .step (.token (h.gap i List.mem_cons_self) hscan) hreads
    · simp only [hoffset, Layout.text_cons, Inscription.text, Text.utf8Length_append, Nat.add_assoc]

end Rounds

/-! ## Faults -/

section Fault

variable {source : String} {e : LexError}

theorem Layout.IsProper.with_tail {is : List Inscription} {tail tail' : List Char}
    (h : IsProper ⟨is, tail⟩) (htail : ∀ c ∈ tail', isSeparator c = true) :
    IsProper ⟨is, tail'⟩ where
  gap := h.gap
  tail := htail
  spells := h.spells
  apart := h.apart

theorem Layout.text_append_tail (is : List Inscription) (tail tail' : List Char) :
    text ⟨is, tail ++ tail'⟩ = text ⟨is, tail⟩ ++ tail' :=
  (List.append_assoc _ _ _).symm

/-- A text is at fault if a stray character follows what is laid out before, and only then. -/
theorem tokens_eq_error_iff :
    tokens source = .error e ↔
      ∃ (l : Layout) (rest : List Char), l.IsProper ∧ IsStray e.character rest ∧
        source.toList = l.text ++ e.character :: rest ∧ e.offset = Text.utf8Length l.text := by
  constructor
  · intro h
    obtain ⟨ts, q, hreads, hhalts⟩ := exists_reads_halts 0 source.toList
    have hfault := hreads.tokensFrom_eq.symm.trans h
    rw [map_eq_error_iff] at hfault
    cases hhalts with
    | atEnd hend =>
      rw [Layout.tokensFrom_separators hend] at hfault
      cases hfault
    | @atStray offset gap rest c hgap hc =>
      rw [tokensFrom_stray hgap hc] at hfault
      cases hfault
      obtain ⟨⟨is, tail⟩, hproper, rfl, hleft, hoffset, -⟩ := hreads.exists_layout
      refine ⟨⟨is, [] ++ gap⟩, rest, hproper.with_tail hgap, hc, ?_, ?_⟩
      · rw [Layout.text_append_tail, List.append_assoc]
        exact hleft
      · rw [Layout.text_append_tail, Text.utf8Length_append]
        dsimp only at hoffset ⊢
        rw [hoffset, Nat.zero_add]
  · rintro ⟨⟨is, tail⟩, rest, hproper, hc, htext, hoffset⟩
    obtain ⟨offset, hreads, hend⟩ := reads_text hproper hc 0
    rw [tokens, htext]
    refine hreads.tokensFrom_eq.trans ?_
    rw [tokensFrom_stray hproper.tail hc, hend, Nat.zero_add, ← hoffset]
    rfl

/-- **A fault of the tokens is the first stray character, and what precedes it is read.**

Reading the tokens of a text fails exactly if, after a text that can be read and after separators,
there is a character with which no token starts. The fault names this character and its place in
bytes. If the text is cut off there, the tokens are those that were read before the fault.

Each round takes at least one character for its token, and so the rounds end, whatever the text; and
wherever they have got to, what precedes has the tokens that have been read. -/
theorem lexError_exact (source : String) :
    (∀ e, tokens source = .error e ↔
      ∃ before gap rest, source.toList = before ++ (gap ++ e.character :: rest) ∧
        (∃ placed, tokens (.ofList before) = .ok placed) ∧ (∀ c ∈ gap, isSeparator c = true) ∧
        IsStray e.character rest ∧ e.offset = (String.ofList (before ++ gap)).utf8ByteSize) ∧
    (∀ e, tokens source = .error e →
      ∃ cut gap rest placed offset, source.toList = cut ++ e.character :: rest ∧
        e.offset = (String.ofList cut).utf8ByteSize ∧ tokens (.ofList cut) = .ok placed ∧
        Reads ⟨0, source.toList⟩ placed ⟨offset, gap ++ e.character :: rest⟩ ∧
        ∀ c ∈ gap, isSeparator c = true) ∧
    (∃ placed q, Reads ⟨0, source.toList⟩ placed q ∧ q.Halts) ∧
    ∀ placed q, Reads ⟨0, source.toList⟩ placed q →
      placed.length + q.left.length ≤ source.length ∧
      ∃ before, source.toList = before ++ q.left ∧ tokens (.ofList before) = .ok placed := by
  have hsize : ∀ cs : List Char, Text.utf8Length cs = (String.ofList cs).utf8ByteSize := by
    intro cs
    rw [← Text.utf8Length_toList, String.toList_ofList]
  refine ⟨fun e ↦ ?_, fun e h ↦ ?_, exists_reads_halts 0 _, fun placed q h ↦ ⟨h.length_le, ?_⟩⟩
  · rw [tokens_eq_error_iff]
    constructor
    · rintro ⟨⟨is, tail⟩, rest, hproper, hc, htext, hoffset⟩
      have hbefore := Layout.tokensFrom_text (hproper.with_tail (List.forall_mem_nil _)) 0
      have hjoin := Layout.text_append_tail is [] tail
      rw [List.nil_append] at hjoin
      refine ⟨Layout.text ⟨is, []⟩, tail, rest, ?_, ⟨Layout.placedFrom 0 is, ?_⟩, hproper.tail, hc,
        ?_⟩
      · rw [htext, hjoin, List.append_assoc]
      · rw [tokens, String.toList_ofList, hbefore]
      · rw [hoffset, hjoin, hsize]
    · rintro ⟨before, gap, rest, htext, ⟨placed, hplaced⟩, hgap, hc, hoffset⟩
      rw [tokens, String.toList_ofList] at hplaced
      obtain ⟨⟨is, tail⟩, hproper, rfl, -⟩ := Layout.exists_of_tokensFrom 0 before placed hplaced
      refine ⟨⟨is, tail ++ gap⟩, rest, hproper.with_tail ?_, hc, ?_, ?_⟩
      · exact List.forall_mem_append.mpr ⟨hproper.tail, hgap⟩
      · rw [htext, Layout.text_append_tail, List.append_assoc]
      · rw [hoffset, Layout.text_append_tail, hsize]
  · obtain ⟨l, rest, hproper, hc, htext, hoffset⟩ := tokens_eq_error_iff.mp h
    obtain ⟨offset, hreads, -⟩ := reads_text hproper hc 0
    refine ⟨l.text, l.tail, rest, Layout.placedFrom 0 l.inscriptions, offset, htext,
      hoffset.trans (hsize _), ?_, ?_, hproper.tail⟩
    · rw [tokens, String.toList_ofList, Layout.tokensFrom_text hproper]
    · rw [htext]
      exact hreads
  · obtain ⟨l, hproper, -, hleft, -, rfl⟩ := h.exists_layout
    refine ⟨l.text, hleft, ?_⟩
    rw [tokens, String.toList_ofList, Layout.tokensFrom_text hproper]

/-- A quote that is never closed, since the backslash at the end escapes nothing, and that stands
after characters of several bytes. -/
theorem lexError_exact_open_quote :
    ∃ e, tokens "nodes with \"é\"= \"ß\\" = .error e ∧ e.character = '"' ∧ e.offset = 17 := by
  refine ⟨⟨'"', 17⟩, ((lexError_exact _).1 _).mpr ?_, rfl, rfl⟩
  refine ⟨"nodes with \"é\"=".toList, [' '], ['ß', '\\'], rfl, ?_, ?_, ?_, ?_⟩
  · exact exists_eq_ok_of_isOk (by decide +kernel)
  · exact List.forall_mem_singleton.mpr rfl
  · refine ⟨rfl, by decide, ?_, fun _ body content after _ hrest ↦ ?_⟩
    · exact Symbol.scan?_eq_none_iff_head?.mp (show Symbol.scan? ['"'] = none from rfl)
    · have hquote : '"' ∈ ['ß', '\\'] := by
        rw [hrest]
        exact List.mem_append_right body List.mem_cons_self
      exact absurd hquote (by decide)
  · decide +kernel

end Fault

end TagQuery.Query
