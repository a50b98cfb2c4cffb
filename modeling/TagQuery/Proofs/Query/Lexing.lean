import Mathlib.Data.List.TakeWhile
import TagQuery.Query.Token

/-!
# Which tokens a text is

`Lexes cs ts` says that the characters `cs` are the tokens `ts`, without the offsets; it is what
`tokens` decides (`lexes_iff_exists_tokens`). The offsets of tokens depend on what stands before
them, the tokens themselves do not, so it is this relation that concatenation respects.

## Concatenation

A token ends where the text says so, and no later, if what follows *stands apart* from it: if it
starts with no character that a word or a symbol could take in. Then a text may be cut there, and
its tokens are those of the two parts (`Lexes.append_iff`). Blanks and parentheses stand apart from
everything.

## Writing tokens down

Each token has a canonical spelling, quotes with escapes around quoted texts, and tokens with spaces
between their spellings are read back as they were (`lexes_spelled`).
-/

namespace TagQuery.Query

/-! ## Tokens without offsets -/

/-- The characters are the tokens, with separators before, between and after them. -/
inductive Lexes : List Char → List Token → Prop
  | nil : Lexes [] []
  | separator {c : Char} {cs : List Char} {ts : List Token} (hc : isSeparator c = true)
      (h : Lexes cs ts) : Lexes (c :: cs) ts
  | token {cs rest : List Char} {t : Token} {ts : List Token}
      (ht : Token.scan? cs = some (t, rest)) (h : Lexes rest ts) : Lexes cs (t :: ts)

theorem isWordCharacter_of_isSeparator {c : Char} (h : isSeparator c = true) :
    isWordCharacter c = false := by
  simp only [isSeparator, Bool.or_eq_true, beq_iff_eq] at h
  rcases h with ((rfl | rfl) | rfl) | rfl <;> decide

/-- A separator starts no token. -/
theorem Token.scan?_separator {c : Char} {cs : List Char} (h : isSeparator c = true) :
    scan? (c :: cs) = none := by
  have hword := isWordCharacter_of_isSeparator h
  simp only [isSeparator, Bool.or_eq_true, beq_iff_eq] at h
  rcases h with ((rfl | rfl) | rfl) | rfl <;> simp [scan?, Symbol.scan?, hword]

theorem lexes_separator_cons {c : Char} {cs : List Char} {ts : List Token}
    (hc : isSeparator c = true) : Lexes (c :: cs) ts ↔ Lexes cs ts := by
  refine ⟨fun h ↦ ?_, .separator hc⟩
  cases h with
  | separator _ h => exact h
  | token ht h =>
    rw [Token.scan?_separator hc] at ht
    cases ht

theorem lexes_dropWhile {cs : List Char} {ts : List Token} :
    Lexes (cs.dropWhile isSeparator) ts ↔ Lexes cs ts := by
  induction cs with
  | nil => rfl
  | cons c cs ih =>
    by_cases hc : isSeparator c = true
    · rw [List.dropWhile_cons_of_pos hc, ih, lexes_separator_cons hc]
    · rw [List.dropWhile_cons_of_neg hc]

theorem lexes_of_scan? {cs rest : List Char} {t : Token} {ts : List Token}
    (ht : Token.scan? cs = some (t, rest)) :
    Lexes cs ts ↔ ∃ us, ts = t :: us ∧ Lexes rest us := by
  constructor
  · intro h
    cases h with
    | nil => cases ht
    | separator hc h =>
      rw [Token.scan?_separator hc] at ht
      cases ht
    | token ht' h =>
      cases ht.symm.trans ht'
      exact ⟨_, rfl, h⟩
  · rintro ⟨us, rfl, h⟩
    exact .token ht h

theorem lexes_nil_iff {ts : List Token} : Lexes [] ts ↔ ts = [] := by
  refine ⟨fun h ↦ ?_, fun h ↦ h ▸ .nil⟩
  cases h with
  | nil => rfl
  | token ht _ => cases ht

/-- The tokens of a text, found from any offset on, are those that its characters are. -/
theorem lexes_iff_exists_tokensFrom (offset : Nat) (cs : List Char) (ts : List Token) :
    Lexes cs ts ↔ ∃ placed, tokensFrom offset cs = .ok placed ∧ placed.map (·.token) = ts := by
  fun_induction tokensFrom offset cs generalizing ts with
  | case1 offset cs h =>
    rw [← lexes_dropWhile, h, lexes_nil_iff]
    exact ⟨fun h ↦ ⟨[], rfl, h.symm⟩, fun ⟨_, hp, hts⟩ ↦ by cases hp; exact hts.symm⟩
  | case2 offset cs start c cs' h hs =>
    rw [← lexes_dropWhile, h]
    refine ⟨fun hl ↦ ?_, fun ⟨_, hp, _⟩ ↦ nomatch hp⟩
    have hc := List.head?_dropWhile_not isSeparator cs
    rw [h] at hc
    cases hl with
    | separator hsep _ => simp [hsep] at hc
    | token ht _ =>
      rw [hs] at ht
      cases ht
  | case3 offset cs start c cs' h token rest hs ih =>
    rw [← lexes_dropWhile, h, lexes_of_scan? hs]
    constructor
    · rintro ⟨us, rfl, hl⟩
      obtain ⟨placed, hp, rfl⟩ := (ih us).mp hl
      rw [hp]
      exact ⟨_, rfl, rfl⟩
    · rintro ⟨placed, hp, rfl⟩
      cases hrest :
          tokensFrom (start + (Text.utf8Length (c :: cs') - Text.utf8Length rest)) rest with
      | error e =>
        rw [hrest] at hp
        cases hp
      | ok placed' =>
        rw [hrest] at hp
        cases hp
        exact ⟨_, rfl, (ih _).mpr ⟨placed', hrest, rfl⟩⟩

theorem lexes_iff_exists_tokens {source : String} {ts : List Token} :
    Lexes source.toList ts ↔
      ∃ placed, tokens source = .ok placed ∧ placed.map (·.token) = ts :=
  lexes_iff_exists_tokensFrom 0 source.toList ts

/-! ## What follows a token -/

/-- No token runs into a text that stands apart: it starts with a character that neither belongs to
a word nor completes a symbol, or there is none. -/
def StandsApart (cs : List Char) : Prop :=
  ∀ c ∈ cs.head?, isWordCharacter c = false ∧ c ≠ '=' ∧ c ≠ '~'

theorem standsApart_space (cs : List Char) : StandsApart (' ' :: cs) := by
  intro c hc
  cases hc
  decide

theorem standsApart_closeParen (cs : List Char) : StandsApart (')' :: cs) := by
  intro c hc
  cases hc
  decide

/-- The signs that are part of a longer one are scanned alone if nothing completes them. -/
theorem Symbol.scan?_less {cs : List Char} (h : cs.head? ≠ some '=') :
    scan? ('<' :: cs) = some (.comparison .less, cs) := by
  cases cs with
  | nil => rfl
  | cons c cs =>
    have hc : c ≠ '=' := fun hc ↦ h (congrArg some hc)
    simp [scan?, hc]

theorem Symbol.scan?_greater {cs : List Char} (h : cs.head? ≠ some '=') :
    scan? ('>' :: cs) = some (.comparison .greater, cs) := by
  cases cs with
  | nil => rfl
  | cons c cs =>
    have hc : c ≠ '=' := fun hc ↦ h (congrArg some hc)
    simp [scan?, hc]

theorem Symbol.scan?_bang {cs : List Char} (h : cs.head? ≠ some '=') (h' : cs.head? ≠ some '~') :
    scan? ('!' :: cs) = some (.bang, cs) := by
  cases cs with
  | nil => rfl
  | cons c cs =>
    have hc : c ≠ '=' := fun hc ↦ h (congrArg some hc)
    have hc' : c ≠ '~' := fun hc ↦ h' (congrArg some hc)
    simp [scan?, hc, hc']

theorem StandsApart.head?_append_ne {cs tail : List Char} (ht : StandsApart tail) {c : Char}
    (hc : c = '=' ∨ c = '~') (h : cs.head? ≠ some c) : (cs ++ tail).head? ≠ some c := by
  cases cs with
  | nil =>
    intro hhead
    obtain ⟨-, h₁, h₂⟩ := ht c hhead
    rcases hc with rfl | rfl
    · exact h₁ rfl
    · exact h₂ rfl
  | cons d cs => exact h

theorem Symbol.scan?_append {cs rest tail : List Char} {s : Symbol}
    (h : scan? cs = some (s, rest)) (ht : StandsApart tail) :
    scan? (cs ++ tail) = some (s, rest ++ tail) := by
  have hhead : ∀ {cs : List Char} {c : Char}, (∀ rest, cs = c :: rest → False) →
      cs.head? ≠ some c := by
    intro cs c hne hhead
    cases cs with
    | nil => cases hhead
    | cons d cs => exact hne cs (congrArg (· :: cs) (Option.some.inj hhead))
  unfold scan? at h
  split at h
  case h_7 cs hne =>
    cases h
    exact scan?_less (ht.head?_append_ne (.inl rfl) (hhead fun r hr ↦ hne r (by rw [hr])))
  case h_8 cs hne =>
    cases h
    exact scan?_greater (ht.head?_append_ne (.inl rfl) (hhead fun r hr ↦ hne r (by rw [hr])))
  case h_9 cs hne hne' =>
    cases h
    exact scan?_bang (ht.head?_append_ne (.inl rfl) (hhead fun r hr ↦ hne r (by rw [hr])))
      (ht.head?_append_ne (.inr rfl) (hhead fun r hr ↦ hne' r (by rw [hr])))
  all_goals
    cases h
    try rfl

/-- Whether a symbol starts a text is seen from the first character. -/
theorem Symbol.scan?_cons_eq_none_iff {c : Char} {cs : List Char} :
    scan? (c :: cs) = none ↔ c ∉ ['!', '<', '>', '=', '~', '(', ')', ',', '|'] := by
  constructor
  · intro h hc
    simp only [List.mem_cons, List.not_mem_nil, or_false] at hc
    unfold scan? at h
    split at h <;> simp_all
  · intro h
    simp only [List.mem_cons, List.not_mem_nil, or_false, not_or] at h
    unfold scan?
    split <;> simp_all

theorem Token.scanQuoted?_append {cs value rest : List Char}
    (h : scanQuoted? cs = some (value, rest)) (tail : List Char) :
    scanQuoted? (cs ++ tail) = some (value, rest ++ tail) := by
  fun_induction scanQuoted? cs generalizing value rest with
  | case1 => cases h
  | case2 cs =>
    cases h
    rfl
  | case3 => cases h
  | case4 c cs ih =>
    obtain ⟨⟨v, r⟩, hv, he⟩ := Option.map_eq_some_iff.mp h
    cases he
    rw [List.cons_append, List.cons_append, scanQuoted?, ih hv]
    rfl
  | case5 c cs hquote hlast hpair ih =>
    obtain ⟨⟨v, r⟩, hv, he⟩ := Option.map_eq_some_iff.mp h
    cases he
    have hback : c ≠ '\\' := by
      rintro rfl
      cases cs with
      | nil => exact hlast rfl rfl
      | cons d cs => exact hpair d cs rfl rfl
    rw [List.cons_append, scanQuoted?, ih hv]
    · rfl
    · exact hquote
    · exact fun hc _ ↦ hback hc
    · exact fun _ _ hc _ ↦ hback hc

theorem StandsApart.takeWhile_append {tail : List Char} (ht : StandsApart tail) (cs : List Char) :
    (cs ++ tail).takeWhile isWordCharacter = cs.takeWhile isWordCharacter := by
  induction cs with
  | nil =>
    cases tail with
    | nil => rfl
    | cons c tail =>
      rw [List.nil_append, List.takeWhile_cons, (ht c rfl).1]
      rfl
  | cons c cs ih =>
    rw [List.cons_append, List.takeWhile_cons, List.takeWhile_cons, ih]

theorem StandsApart.dropWhile_append {tail : List Char} (ht : StandsApart tail) (cs : List Char) :
    (cs ++ tail).dropWhile isWordCharacter = cs.dropWhile isWordCharacter ++ tail := by
  induction cs with
  | nil =>
    cases tail with
    | nil => rfl
    | cons c tail =>
      rw [List.nil_append, List.dropWhile_cons, (ht c rfl).1]
      rfl
  | cons c cs ih =>
    rw [List.cons_append, List.dropWhile_cons, List.dropWhile_cons, ih]
    split <;> rfl

theorem Token.scan?_symbol {cs rest : List Char} {s : Symbol}
    (h : Symbol.scan? cs = some (s, rest)) : scan? cs = some (symbol s, rest) := by
  unfold scan?
  rw [h]

theorem Token.scan?_quote (cs : List Char) :
    scan? ('"' :: cs)
      = (scanQuoted? cs).map fun (value, rest) ↦ (quoted (.ofList value), rest) := rfl

theorem Token.scan?_word {c : Char} {cs : List Char} (h : Symbol.scan? (c :: cs) = none)
    (hquote : c ≠ '"') :
    scan? (c :: cs) = if ((c :: cs).takeWhile isWordCharacter).isEmpty then none
      else some (ofWord ((c :: cs).takeWhile isWordCharacter),
        (c :: cs).dropWhile isWordCharacter) := by
  unfold scan?
  rw [h]
  split
  · cases ‹none = some _›
  · split
    · next heq => exact absurd (List.cons.inj heq).1 hquote
    · rfl

/-- A token is scanned off a text whatever stands apart from the text behind it. -/
theorem Token.scan?_append {cs rest tail : List Char} {t : Token}
    (h : scan? cs = some (t, rest)) (ht : StandsApart tail) :
    scan? (cs ++ tail) = some (t, rest ++ tail) := by
  obtain _ | ⟨c, cs⟩ := cs
  · cases h
  cases hs : Symbol.scan? (c :: cs) with
  | some found =>
    obtain ⟨s, rest'⟩ := found
    rw [scan?_symbol hs] at h
    cases h
    exact scan?_symbol (Symbol.scan?_append hs ht)
  | none =>
    have hs' : Symbol.scan? (c :: (cs ++ tail)) = none :=
      Symbol.scan?_cons_eq_none_iff.mpr (Symbol.scan?_cons_eq_none_iff.mp hs)
    by_cases hquote : c = '"'
    · subst hquote
      rw [scan?_quote] at h
      obtain ⟨⟨value, rest'⟩, hv, he⟩ := Option.map_eq_some_iff.mp h
      cases he
      rw [List.cons_append, scan?_quote, scanQuoted?_append hv tail]
      rfl
    · rw [scan?_word hs hquote] at h
      rw [List.cons_append, scan?_word hs' hquote, ← List.cons_append, ht.takeWhile_append,
        ht.dropWhile_append]
      split at h
      · cases h
      · next hne =>
        cases h
        rw [if_neg hne]

/-! ## Concatenation -/

/-- A text may be cut where what follows stands apart: the tokens are those of the parts. -/
theorem Lexes.append_iff {cs tail : List Char} {ts us : List Token} (h : Lexes cs ts)
    (ht : StandsApart tail) :
    Lexes (cs ++ tail) us ↔ ∃ vs, us = ts ++ vs ∧ Lexes tail vs := by
  induction h generalizing us with
  | nil =>
    rw [List.nil_append]
    exact ⟨fun h ↦ ⟨us, rfl, h⟩, fun ⟨vs, hvs, h⟩ ↦ hvs ▸ h⟩
  | separator hc _ ih => rw [List.cons_append, lexes_separator_cons hc, ih]
  | token hs _ ih =>
    rw [lexes_of_scan? (Token.scan?_append hs ht)]
    constructor
    · rintro ⟨us', rfl, h⟩
      obtain ⟨vs, rfl, hvs⟩ := ih.mp h
      exact ⟨vs, rfl, hvs⟩
    · rintro ⟨vs, rfl, hvs⟩
      exact ⟨_, rfl, ih.mpr ⟨vs, rfl, hvs⟩⟩

theorem Lexes.append {cs tail : List Char} {ts us : List Token} (h : Lexes cs ts)
    (ht : StandsApart tail) (h' : Lexes tail us) : Lexes (cs ++ tail) (ts ++ us) :=
  (h.append_iff ht).mpr ⟨us, rfl, h'⟩

/-! ## Writing tokens down -/

namespace Token

/-- The characters that write a token. -/
def spelling : Token → List Char
  | keyword k => k.spelling.toList
  | symbol s => s.spelling.toList
  | word s => s.toList
  | quoted s => '"' :: (escape s.toList ++ ['"'])

/-- A word has to consist of word characters and must not spell a keyword. All other tokens can be
written whatever they hold. -/
def IsWritable : Token → Prop
  | word s => s.toList ≠ [] ∧ (∀ c ∈ s.toList, isWordCharacter c = true) ∧
      Keyword.ofWord? s = none
  | _ => True

instance : DecidablePred IsWritable
  | word s =>
    -- The characters of the word are tried, not all there are.
    haveI : Decidable (∀ c ∈ s.toList, isWordCharacter c = true) := List.decidableBAll _ _
    inferInstanceAs (Decidable (_ ∧ _ ∧ _))
  | keyword _ | symbol _ | quoted _ => isTrue trivial

theorem scanQuoted?_escape (cs rest : List Char) :
    scanQuoted? (escape cs ++ '"' :: rest) = some (cs, rest) := by
  induction cs with
  | nil => rfl
  | cons c cs ih =>
    by_cases hc : c = '"' ∨ c = '\\'
    · have hescape : escape (c :: cs) = '\\' :: c :: escape cs := by
        rw [escape, List.flatMap_cons, if_pos hc]
        rfl
      have hunescape : unescape c = [c] := if_pos hc
      rw [hescape, List.cons_append, List.cons_append, scanQuoted?, ih, Option.map_some, hunescape]
      rfl
    · have hescape : escape (c :: cs) = c :: escape cs := by
        rw [escape, List.flatMap_cons, if_neg hc]
        rfl
      rw [not_or] at hc
      rw [hescape, List.cons_append, scanQuoted?, ih]
      · rfl
      · exact hc.1
      · exact fun h _ ↦ hc.2 h
      · exact fun _ _ h _ ↦ hc.2 h

theorem symbolScan?_eq_none_of_isWordCharacter {c : Char} {cs : List Char}
    (h : isWordCharacter c = true) : Symbol.scan? (c :: cs) = none := by
  rw [Symbol.scan?_cons_eq_none_iff]
  intro hc
  have hreserved : isReserved c = true := by
    simp only [List.mem_cons, List.not_mem_nil, or_false] at hc
    rcases hc with rfl | rfl | rfl | rfl | rfl | rfl | rfl | rfl | rfl <;> decide
  simp [isWordCharacter, hreserved] at h

theorem scan?_spelling_word {s : String} (h : (word s).IsWritable) :
    scan? s.toList = some (word s, []) := by
  obtain ⟨hne, hchars, hkeyword⟩ := h
  have htake : s.toList.takeWhile isWordCharacter = s.toList :=
    List.takeWhile_eq_self_iff.mpr hchars
  have hdrop : s.toList.dropWhile isWordCharacter = [] := List.dropWhile_eq_nil_iff.mpr hchars
  obtain ⟨c, cs, hcs⟩ := List.exists_cons_of_ne_nil hne
  have hc : isWordCharacter c = true := hchars c (by rw [hcs]; exact List.mem_cons_self)
  have hquote : c ≠ '"' := by
    rintro rfl
    exact absurd hc (by decide)
  have hsymbol : Symbol.scan? (c :: cs) = none := symbolScan?_eq_none_of_isWordCharacter hc
  have hscan := scan?_word hsymbol hquote
  rw [← hcs, htake, hdrop, ofWord, String.ofList_toList, hkeyword] at hscan
  rw [hscan, hcs]
  rfl

theorem scan?_spelling {t : Token} (h : t.IsWritable) : scan? t.spelling = some (t, []) := by
  cases t with
  | keyword k =>
    cases k with
    | kind k => cases k <;> decide
    | _ => decide
  | symbol s =>
    cases s with
    | comparison op => cases op <;> decide
    | _ => decide
  | word s => exact scan?_spelling_word h
  | quoted s =>
    rw [spelling, scan?_quote, scanQuoted?_escape]
    exact congrArg (fun u ↦ some (quoted u, [])) String.ofList_toList

end Token

/-- Tokens written with spaces between them. -/
def spelled : List Token → List Char
  | [] => []
  | [t] => t.spelling
  | t :: ts => t.spelling ++ ' ' :: spelled ts

theorem lexes_spelling {t : Token} (h : t.IsWritable) : Lexes t.spelling [t] :=
  .token (Token.scan?_spelling h) .nil

/-- Tokens that are written down are read back. -/
theorem lexes_spelled {ts : List Token} (h : ∀ t ∈ ts, t.IsWritable) : Lexes (spelled ts) ts := by
  fun_induction spelled ts with
  | case1 => exact .nil
  | case2 t => exact lexes_spelling (h t List.mem_cons_self)
  | case3 t ts _ ih =>
    exact (lexes_spelling (h t List.mem_cons_self)).append (standsApart_space _)
      (.separator rfl (ih fun u hu ↦ h u (List.mem_cons_of_mem t hu)))

end TagQuery.Query
